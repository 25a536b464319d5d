import UsageScan.Proofs.Checked.Reader
/-!
# Walks through a text

A walk goes through a text by single characters, by runs and by leaps, and it comes back to places
that it kept, or goes forward to them again. Wherever it gets to, the place is that of the text read
so far: its offset tells the line breaks before it and the characters of its line, however the walk
got there.

A walker that counts nothing and keeps the text read so far as it is serves as the rule. The cursors
count character by character, and a reader in 32 bits counts the bytes that it leaps over; both
follow the rule.

## Main definitions

* `Move`, `Walker`, `Walk` — what is done on a walk, who does it, and how far it has come
* `Walker.Legal` — walks that leap forward to where a character begins and come back to kept places
* `Split.walker`, `Cursor.walker`, `Checked.Reader.walker` — the rule, and those who count
* `Walker.CountsIn` — the places of all walks are counted in the text

## Main results

* `Walker.Follows.run?` — who follows the rule in each operation follows it on each walk
* `Walker.Follows.countsIn` — who follows the rule counts in the text
* `places_walk` — the cursors and the reader do
-/

set_option autoImplicit false

namespace UsageScan

open Text

/-! ### Walks -/

/-- What is done on a walk. -/
inductive Move where
  /-- Goes over the next character, if there is one. -/
  | bump
  /-- Goes over the longest run of characters that satisfy `p`. -/
  | eatWhile (p : Char → Bool)
  /-- Leaps forward to a byte offset. -/
  | advanceTo (target : Nat)
  /-- Keeps the place. -/
  | keep
  /-- Goes to the place that was kept as number `mark`, counted from zero. -/
  | restore (mark : Nat)

namespace Move

/-- Whether a move only reads on. -/
def isReading : Move → Bool
  | bump | eatWhile _ | advanceTo _ => true
  | keep | restore _ => false

/-- Whether a move keeps the place. -/
def isKeep : Move → Bool
  | keep => true
  | _ => false

/-- Whether a move can be made at an offset of a text, when so many places have been kept. -/
def IsPossible (text : List Char) (offset kept : Nat) : Move → Prop
  | advanceTo target => offset ≤ target ∧ ∃ before, before <+: text ∧ size before = target
  | restore mark => mark < kept
  | bump | eatWhile _ | keep => True

end Move

/-- Who can walk through a text. The operations may fail. -/
structure Walker (σ : Type) where
  /-- The counts of a place. -/
  position : σ → Position
  bump? : σ → Option (Option Char × σ)
  eatWhile? : (Char → Bool) → σ → Option σ
  advanceTo? : Nat → σ → Option σ
  /-- Leaves a place for one that was kept. -/
  restore : σ → σ → σ

/-- How far a walk has come, with the places that were kept on it. -/
structure Walk (σ : Type) where
  here : σ
  kept : List σ

namespace Walk

variable {σ τ : Type}

/-- The place that was reached, and those that were kept. -/
def places (t : Walk σ) : List σ :=
  t.here :: t.kept

/-- A walk at the same places as others see them. -/
def map (f : σ → τ) (t : Walk σ) : Walk τ :=
  ⟨f t.here, t.kept.map f⟩

theorem places_map (f : σ → τ) (t : Walk σ) : (t.map f).places = t.places.map f :=
  rfl

end Walk

namespace Walker

variable {σ : Type} (w : Walker σ)

/-- Makes a move. -/
def step? (t : Walk σ) : Move → Option (Walk σ)
  | .bump => (w.bump? t.here).map fun next => { t with here := next.2 }
  | .eatWhile p => (w.eatWhile? p t.here).map fun there => { t with here := there }
  | .advanceTo target => (w.advanceTo? target t.here).map fun there => { t with here := there }
  | .keep => some { t with kept := t.kept ++ [t.here] }
  | .restore mark => t.kept[mark]?.map fun there => { t with here := w.restore t.here there }

/-- Makes several moves. -/
def run? (t : Walk σ) : List Move → Option (Walk σ)
  | [] => some t
  | m :: ms => (w.step? t m).bind fun t => run? t ms

/-- Whether each of several moves can be made when it comes. -/
def Legal (text : List Char) (t : Walk σ) : List Move → Prop
  | [] => True
  | m :: ms => m.IsPossible text (w.position t.here).offset t.kept.length ∧
      ∀ t' ∈ w.step? t m, Legal text t' ms

/-- The places of all walks through a text are counted in that text. -/
structure CountsIn (text : List Char) (start : σ) : Prop where
  /-- A walk fails only by a leap back or into a character, or if it goes to a place that was not
  kept. -/
  succeeds_iff : ∀ ms, (∃ t, w.run? ⟨start, []⟩ ms = some t) ↔ w.Legal text ⟨start, []⟩ ms
  /-- A place lies between two parts of the text. Its counts are those of the first part, and the
  second part is what is read next. -/
  counted : ∀ ms t, w.run? ⟨start, []⟩ ms = some t → ∃ read rest, text = read ++ rest ∧
    w.position t.here = ⟨size read, read.count '\n', (lastLine read).length⟩ ∧
      (w.bump? t.here).map Prod.fst = some rest.head?
  /-- Two places with the same offset are the same, reached or kept on whatever walks. -/
  determined : ∀ ms ms' t t', w.run? ⟨start, []⟩ ms = some t → w.run? ⟨start, []⟩ ms' = some t' →
    ∀ s ∈ t.places, ∀ s' ∈ t'.places,
      (w.position s).offset = (w.position s').offset → s = s'
  /-- A leap is the same as going on by single characters until its target is reached. -/
  leap : ∀ ms target, w.Legal text ⟨start, []⟩ (ms ++ [.advanceTo target]) →
    ∃ n, w.run? ⟨start, []⟩ (ms ++ [.advanceTo target]) =
        w.run? ⟨start, []⟩ (ms ++ List.replicate n .bump) ∧
      ∀ k ≤ n, ∃ t, w.run? ⟨start, []⟩ (ms ++ List.replicate k .bump) = some t ∧
        ((w.position t.here).offset < target ↔ k < n)
  /-- Behind whatever comes between keeping a place and going back to it, reading goes on as if it
  had not been. -/
  excursion : ∀ before away behind, (∃ t, w.run? ⟨start, []⟩ (before ++ .keep :: away) = some t) →
    (∀ m ∈ behind, m.isReading = true) →
      (w.run? ⟨start, []⟩ (before ++ .keep :: away ++
        .restore (before.countP Move.isKeep) :: behind)).map Walk.here =
          (w.run? ⟨start, []⟩ (before ++ behind)).map Walk.here

end Walker

/-! ### Walkers -/

/-- A text divided in two. -/
structure Split where
  read : List Char
  rest : List Char
deriving DecidableEq, Repr

namespace Split

/-- The divided text. -/
def text (x : Split) : List Char :=
  x.read ++ x.rest

/-- The counts of the first part: its bytes, its line breaks, and the characters of its last
line. -/
def position (x : Split) : Position :=
  ⟨size x.read, x.read.count '\n', (lastLine x.read).length⟩

/-- The division behind the next character. -/
def bump (x : Split) : Option Char × Split :=
  (x.rest.head?, ⟨x.read ++ x.rest.take 1, x.rest.drop 1⟩)

/-- The division behind a run of characters. -/
def eatWhile (p : Char → Bool) (x : Split) : Split :=
  ⟨x.read ++ x.rest.takeWhile p, x.rest.dropWhile p⟩

/-- The division at a byte offset further on. -/
def advanceTo? (target : Nat) (x : Split) : Option Split :=
  if target < size x.read then none
  else (splitAt? (target - size x.read) x.rest).map fun parts => ⟨x.read ++ parts.1, parts.2⟩

/-- The rule for walks: the text read so far is kept as it is. -/
def walker : Walker Split where
  position := position
  bump? x := some x.bump
  eatWhile? p x := some (x.eatWhile p)
  advanceTo? := advanceTo?
  restore _ kept := kept

end Split

/-- Walks by cursors. A kept place is the cursor that stands there. -/
def Cursor.walker : Walker Cursor where
  position := Cursor.position
  bump? c := some (c.peek?, c.advance)
  eatWhile? p c := some (c.eatWhile p)
  advanceTo? target c := c.advanceTo? target
  restore _ kept := kept

/-- Walks by readers. To go to a kept place, a reader takes over its counts. -/
def Checked.Reader.walker : Walker Checked.Reader where
  position := Checked.Reader.position
  bump? := Checked.Reader.bump?
  eatWhile? := Checked.Reader.eatWhile?
  advanceTo? target r := r.advanceTo? target
  restore r kept := r.restore kept.position

/-- How the places of a walker stand for divisions of a text: each operation does at a place what
the rule does at the division. -/
structure Walker.Follows {σ : Type} (w : Walker σ) (text : List Char) (stand : Split → σ) :
    Prop where
  position : ∀ x, x.text = text → w.position (stand x) = x.position
  bump? : ∀ x, x.text = text → w.bump? (stand x) = some (x.bump.1, stand x.bump.2)
  eatWhile? : ∀ p x, x.text = text → w.eatWhile? p (stand x) = some (stand (x.eatWhile p))
  advanceTo? : ∀ target x, x.text = text →
    w.advanceTo? target (stand x) = (x.advanceTo? target).map stand
  restore : ∀ x y, x.text = text → y.text = text → w.restore (stand x) (stand y) = stand y

/-- The walks through a text by the cursors, and by the reader that may fail. -/
structure WalksCounted (text : String) : Prop where
  cursor : Cursor.walker.CountsIn text.toList (.ofText text)
  reader : Checked.Reader.walker.CountsIn text.toList (.ofText text.toList)
  /-- The same moves lead both to the same place. -/
  agree : ∀ ms,
    (Checked.Reader.walker.run? ⟨.ofText text.toList, []⟩ ms).map (fun t => t.here.position) =
      (Cursor.walker.run? ⟨.ofText text, []⟩ ms).map fun t => t.here.position

/-! ### The rule -/

namespace Split

variable {x y : Split} {target : Nat}

@[simp] theorem text_bump (x : Split) : x.bump.2.text = x.text := by
  change x.read ++ x.rest.take 1 ++ x.rest.drop 1 = x.text
  rw [List.append_assoc, List.take_append_drop]
  rfl

@[simp] theorem text_eatWhile (p : Char → Bool) (x : Split) : (x.eatWhile p).text = x.text := by
  simp [eatWhile, text]

/-- A leap takes a part of what is read next. -/
theorem advanceTo?_eq_some_iff : x.advanceTo? target = some y ↔
    ∃ word, x.rest = word ++ y.rest ∧ y.read = x.read ++ word ∧ size y.read = target := by
  unfold advanceTo?
  split
  case isTrue hlt =>
    refine iff_of_false (by simp) ?_
    rintro ⟨word, -, hread, rfl⟩
    rw [hread, size_append] at hlt
    omega
  case isFalse hle =>
    rw [Option.map_eq_some_iff]
    constructor
    · rintro ⟨⟨word, rest⟩, hsplit, rfl⟩
      obtain ⟨hrest, hsize⟩ := splitAt?_eq_some_iff.mp hsplit
      refine ⟨word, hrest, rfl, ?_⟩
      rw [size_append]
      dsimp only at hsize ⊢
      omega
    · rintro ⟨word, hrest, hread, rfl⟩
      refine ⟨(word, y.rest), splitAt?_eq_some_iff.mpr ⟨hrest, ?_⟩, by rw [← hread]⟩
      rw [hread, size_append]
      omega

theorem text_of_advanceTo? (h : x.advanceTo? target = some y) : y.text = x.text := by
  obtain ⟨word, hrest, hread, -⟩ := advanceTo?_eq_some_iff.mp h
  rw [text, text, hrest, hread, List.append_assoc]

/-- A text is divided in one way at an offset. -/
theorem eq_of_size_eq (htext : x.text = y.text) (h : size x.read = size y.read) : x = y := by
  have hx : splitAt? (size x.read) x.text = some (x.read, x.rest) := splitAt?_size_append ..
  have hy : splitAt? (size y.read) y.text = some (y.read, y.rest) := splitAt?_size_append ..
  rw [htext, h, hy] at hx
  obtain ⟨hread, hrest⟩ := Prod.mk.inj (Option.some.inj hx)
  obtain ⟨read, rest⟩ := x
  obtain ⟨read', rest'⟩ := y
  cases hread
  cases hrest
  rfl

/-- Each offset further on at which a character begins or the text ends can be leapt to. -/
theorem exists_advanceTo?_iff : (∃ y, x.advanceTo? target = some y) ↔
    size x.read ≤ target ∧ ∃ before, before <+: x.text ∧ size before = target := by
  constructor
  · rintro ⟨y, h⟩
    obtain ⟨word, -, hread, hsize⟩ := advanceTo?_eq_some_iff.mp h
    have hprefix : y.read <+: x.text := by
      rw [← text_of_advanceTo? h]
      exact List.prefix_append ..
    refine ⟨?_, y.read, hprefix, hsize⟩
    rw [← hsize, hread, size_append]
    exact Nat.le_add_right ..
  · rintro ⟨hle, before, ⟨rest, htext⟩, rfl⟩
    obtain ⟨word, rfl⟩ := prefix_of_size_le (List.prefix_append x.read x.rest) ⟨rest, htext⟩ hle
    have hrest : x.rest = word ++ rest := by
      rw [List.append_assoc] at htext
      exact (List.append_cancel_left htext).symm
    exact ⟨⟨x.read ++ word, rest⟩, advanceTo?_eq_some_iff.mpr ⟨word, hrest, rfl, rfl⟩⟩

end Split

namespace Walk

/-- A walk by the rule through a text. -/
def Within (text : List Char) (t : Walk Split) : Prop :=
  ∀ x ∈ t.places, x.text = text

variable {text : List Char} {t t' : Walk Split} {m : Move} {ms : List Move}

theorem Within.here (h : t.Within text) : t.here.text = text :=
  h _ List.mem_cons_self

theorem within_start (text : List Char) : (⟨⟨[], text⟩, []⟩ : Walk Split).Within text :=
  List.forall_mem_singleton.mpr rfl

/-- A walk that goes to another place of its text stays in the text. -/
theorem Within.go (h : t.Within text) {x : Split} (hx : x.text = text) :
    (⟨x, t.kept⟩ : Walk Split).Within text :=
  List.forall_mem_cons.mpr ⟨hx, fun y hy => h y (List.mem_cons_of_mem _ hy)⟩

theorem Within.step? (h : t.Within text) (hstep : Split.walker.step? t m = some t') :
    t'.Within text := by
  cases m with
  | bump =>
    cases hstep
    exact h.go (by rw [Split.text_bump, h.here])
  | eatWhile p =>
    cases hstep
    exact h.go (by rw [Split.text_eatWhile, h.here])
  | advanceTo target =>
    obtain ⟨x, hx, rfl⟩ := Option.map_eq_some_iff.mp hstep
    exact h.go (by rw [Split.text_of_advanceTo? hx, h.here])
  | keep =>
    cases hstep
    intro x hx
    simp only [places, List.mem_cons, List.mem_append, List.not_mem_nil, or_false] at hx
    rcases hx with rfl | hkept | rfl
    · exact h.here
    · exact h x (List.mem_cons_of_mem _ hkept)
    · exact h.here
  | restore mark =>
    obtain ⟨x, hx, rfl⟩ := Option.map_eq_some_iff.mp hstep
    exact h.go (h x (List.mem_cons_of_mem _ (List.mem_of_getElem? hx)))

theorem Within.run? (h : t.Within text) (hrun : Split.walker.run? t ms = some t') :
    t'.Within text := by
  induction ms generalizing t with
  | nil =>
    cases hrun
    exact h
  | cons m ms ih =>
    obtain ⟨t₁, hstep, hrun⟩ := Option.bind_eq_some_iff.mp hrun
    exact ih (h.step? hstep) hrun

/-- A move by the rule is made exactly if it is possible. -/
theorem Within.exists_step?_iff (h : t.Within text) (m : Move) :
    (∃ t', Split.walker.step? t m = some t') ↔
      m.IsPossible text (Split.walker.position t.here).offset t.kept.length := by
  cases m with
  | bump => exact iff_of_true ⟨_, rfl⟩ trivial
  | eatWhile p => exact iff_of_true ⟨_, rfl⟩ trivial
  | keep => exact iff_of_true ⟨_, rfl⟩ trivial
  | advanceTo target =>
    have hleap : (∃ y, t.here.advanceTo? target = some y) ↔ _ := Split.exists_advanceTo?_iff
    rw [h.here] at hleap
    refine Iff.trans ?_ hleap
    simp [Walker.step?, Split.walker, Option.map_eq_some_iff]
  | restore mark =>
    simp [Walker.step?, Split.walker, Option.map_eq_some_iff, Move.IsPossible,
      ← Option.isSome_iff_exists]

end Walk

/-! ### Following the rule -/

namespace Walker

section Run

variable {σ : Type} {w : Walker σ} {t t' : Walk σ}

theorem run?_append (t : Walk σ) (ms ms' : List Move) :
    w.run? t (ms ++ ms') = (w.run? t ms).bind fun t => w.run? t ms' := by
  induction ms generalizing t with
  | nil => rfl
  | cons m ms ih =>
    simp only [List.cons_append, run?, Option.bind_assoc, ih]

/-- Places are only added behind those that are kept already, one for each move that keeps one. -/
theorem kept_run? {ms : List Move} (h : w.run? t ms = some t') :
    t.kept <+: t'.kept ∧ t'.kept.length = t.kept.length + ms.countP Move.isKeep := by
  induction ms generalizing t with
  | nil =>
    cases h
    exact ⟨List.prefix_rfl, rfl⟩
  | cons m ms ih =>
    obtain ⟨t₁, hstep, h⟩ := Option.bind_eq_some_iff.mp h
    obtain ⟨hkept, hlength⟩ := ih h
    rw [List.countP_cons, hlength]
    cases m with
    | keep =>
      cases hstep
      refine ⟨(List.prefix_append ..).trans hkept, ?_⟩
      simp only [List.length_append, List.length_singleton, Move.isKeep, if_true]
      omega
    | bump | eatWhile | advanceTo | restore =>
      obtain ⟨_, -, rfl⟩ := Option.map_eq_some_iff.mp hstep
      exact ⟨hkept, rfl⟩

/-- Reading on depends on the place alone. -/
theorem map_here_run?_congr {ms : List Move} (hms : ∀ m ∈ ms, m.isReading = true)
    (h : t.here = t'.here) : (w.run? t ms).map Walk.here = (w.run? t' ms).map Walk.here := by
  induction ms generalizing t t' with
  | nil => exact congrArg some h
  | cons m ms ih =>
    obtain ⟨hm, hms⟩ := List.forall_mem_cons.mp hms
    -- What a reading move does to the place it does without looking at what is kept.
    have hmove {α : Type} (o : Option α) (f : α → σ) :
        ((o.map fun a => (⟨f a, t.kept⟩ : Walk σ)).bind fun t => w.run? t ms).map Walk.here =
          ((o.map fun a => (⟨f a, t'.kept⟩ : Walk σ)).bind fun t => w.run? t ms).map Walk.here := by
      cases o with
      | none => rfl
      | some a => exact ih hms rfl
    cases m with
    | bump =>
      rw [run?, run?, step?, step?, h]
      exact hmove _ _
    | eatWhile p =>
      rw [run?, run?, step?, step?, h]
      exact hmove _ id
    | advanceTo target =>
      rw [run?, run?, step?, step?, h]
      exact hmove _ id
    | keep => cases hm
    | restore mark => cases hm

end Run

/-- The division behind so many single characters. -/
theorem run?_replicate_bump (t : Walk Split) (n : Nat) :
    Split.walker.run? t (List.replicate n .bump) =
      some ⟨⟨t.here.read ++ t.here.rest.take n, t.here.rest.drop n⟩, t.kept⟩ := by
  induction n generalizing t with
  | zero => simp [run?]
  | succ n ih =>
    have hstep : Split.walker.step? t .bump = some ⟨t.here.bump.2, t.kept⟩ := rfl
    rw [List.replicate_succ, run?, hstep, Option.bind_some, ih]
    obtain ⟨⟨read, rest⟩, kept⟩ := t
    cases rest <;> simp [Split.bump]

/-- The division that some moves and so many single characters lead to. -/
theorem run?_append_replicate_bump {start t : Walk Split} {ms : List Move}
    (h : Split.walker.run? start ms = some t) (n : Nat) :
    Split.walker.run? start (ms ++ List.replicate n .bump) =
      some ⟨⟨t.here.read ++ t.here.rest.take n, t.here.rest.drop n⟩, t.kept⟩ := by
  rw [run?_append, h, Option.bind_some, run?_replicate_bump]

/-- A leap over some characters leads where so many single characters lead, and not before. -/
theorem exists_run?_advanceTo {t t' : Walk Split} {target : Nat}
    (h : Split.walker.run? t [.advanceTo target] = some t') :
    ∃ n, Split.walker.run? t (List.replicate n .bump) = some t' ∧
      ∀ k ≤ n, (size (t.here.read ++ t.here.rest.take k) < target ↔ k < n) := by
  rw [run?, Option.bind_eq_some_iff] at h
  obtain ⟨t₁, hstep, h⟩ := h
  cases h
  obtain ⟨x, hx, rfl⟩ := Option.map_eq_some_iff.mp hstep
  obtain ⟨word, hrest, hread, rfl⟩ := Split.advanceTo?_eq_some_iff.mp hx
  refine ⟨word.length, ?_, ?_⟩
  · rw [run?_replicate_bump, hrest, List.take_left, List.drop_left, ← hread]
  · intro k hk
    rw [hrest, List.take_append_of_le_length hk, hread, size_append, size_append]
    have hsplit : size (word.take k) + size (word.drop k) = size word := by
      rw [← size_append, List.take_append_drop]
    constructor
    · intro hlt
      refine Nat.lt_of_le_of_ne hk ?_
      rintro rfl
      rw [List.take_length] at hlt
      omega
    · intro hlt
      have hpos : 0 < size (word.drop k) := by
        apply size_pos
        rw [Ne, List.drop_eq_nil_iff]
        omega
      omega

/-- By the rule, an excursion leads back to where it began. -/
theorem run?_excursion {start t : Walk Split} (hstart : start.kept = [])
    {before away : List Move} (h : Split.walker.run? start (before ++ .keep :: away) = some t) :
    ∃ t₁ t₂, Split.walker.run? start before = some t₁ ∧ Split.walker.run? start
      (before ++ .keep :: away ++ [.restore (before.countP Move.isKeep)]) = some t₂ ∧
        t₂.here = t₁.here := by
  obtain ⟨t₁, hbefore, haway⟩ := Option.bind_eq_some_iff.mp
    ((run?_append start before (.keep :: away)).symm.trans h)
  have hkept := (kept_run? hbefore).2
  rw [hstart, List.length_nil, Nat.zero_add] at hkept
  -- The place is kept behind those before it, and nothing that is kept later comes in its stead.
  obtain ⟨more, hmore⟩ := (kept_run? (t := ⟨t₁.here, t₁.kept ++ [t₁.here]⟩) haway).1
  have hmark : t.kept[before.countP Move.isKeep]? = some t₁.here := by
    rw [← hmore, ← hkept]
    simp
  refine ⟨t₁, ⟨t₁.here, t.kept⟩, hbefore, ?_, rfl⟩
  rw [run?_append, h, Option.bind_some, run?, step?, hmark]
  rfl

variable {σ : Type} {w : Walker σ} {text : List Char} {stand : Split → σ} {t : Walk Split}

theorem Follows.step? (h : w.Follows text stand) (ht : t.Within text) (m : Move) :
    w.step? (t.map stand) m = (Split.walker.step? t m).map (Walk.map stand) := by
  cases m with
  | bump =>
    rw [Walker.step?, Walk.map, h.bump? _ ht.here]
    rfl
  | eatWhile p =>
    rw [Walker.step?, Walk.map, h.eatWhile? p _ ht.here]
    rfl
  | advanceTo target =>
    rw [Walker.step?, Walk.map, h.advanceTo? target _ ht.here, Walker.step?, Option.map_map,
      Option.map_map]
    rfl
  | keep => simp [Walker.step?, Walk.map]
  | restore mark =>
    rw [Walker.step?, Walk.map, Walker.step?, List.getElem?_map, Option.map_map, Option.map_map]
    cases hmark : t.kept[mark]? with
    | none => rfl
    | some x =>
      have hx := ht x (List.mem_cons_of_mem _ (List.mem_of_getElem? hmark))
      simp [Walk.map, Split.walker, h.restore _ _ ht.here hx]

/-- Who follows the rule in each operation follows it on each walk. -/
theorem Follows.run? (h : w.Follows text stand) (ht : t.Within text) (ms : List Move) :
    w.run? (t.map stand) ms = (Split.walker.run? t ms).map (Walk.map stand) := by
  induction ms generalizing t with
  | nil => rfl
  | cons m ms ih =>
    rw [Walker.run?, Walker.run?, h.step? ht]
    cases hstep : Split.walker.step? t m with
    | none => rfl
    | some t' => exact ih (ht.step? hstep)

/-- A walk succeeds exactly if each move is possible when it comes. -/
theorem Follows.exists_run?_iff (h : w.Follows text stand) (ht : t.Within text) (ms : List Move) :
    (∃ t', w.run? (t.map stand) ms = some t') ↔ w.Legal text (t.map stand) ms := by
  induction ms generalizing t with
  | nil => exact iff_of_true ⟨_, rfl⟩ trivial
  | cons m ms ih =>
    have hpossible := ht.exists_step?_iff m
    have hposition : w.position (t.map stand).here = Split.walker.position t.here :=
      h.position _ ht.here
    rw [Legal, hposition, Walk.map, List.length_map, ← hpossible, ← Walk.map, Walker.run?,
      h.step? ht]
    cases hstep : Split.walker.step? t m with
    | none => simp
    | some t' => simpa using ih (ht.step? hstep)

/-- A walk from the start of the text gets to where the rule gets. -/
theorem Follows.exists_of_run? (h : w.Follows text stand) {ms : List Move} {t : Walk σ}
    (ht : w.run? ⟨stand ⟨[], text⟩, []⟩ ms = some t) :
    ∃ x, Split.walker.run? ⟨⟨[], text⟩, []⟩ ms = some x ∧ x.Within text ∧ t = x.map stand := by
  have hstart := Walk.within_start text
  obtain ⟨x, hx, rfl⟩ := Option.map_eq_some_iff.mp ((h.run? hstart ms).symm.trans ht)
  exact ⟨x, hx, hstart.run? hx, rfl⟩

/-- Who follows the rule counts in the text. -/
theorem Follows.countsIn (h : w.Follows text stand) : w.CountsIn text (stand ⟨[], text⟩) := by
  have hstart := Walk.within_start text
  have hrun (ms : List Move) : w.run? ⟨stand ⟨[], text⟩, []⟩ ms =
      (Split.walker.run? ⟨⟨[], text⟩, []⟩ ms).map (Walk.map stand) := h.run? hstart ms
  refine ⟨h.exists_run?_iff hstart, ?counted, ?determined, ?leap, ?excursion⟩
  case counted =>
    intro ms t ht
    obtain ⟨x, -, hx, rfl⟩ := h.exists_of_run? ht
    refine ⟨x.here.read, x.here.rest, hx.here.symm, h.position _ hx.here, ?_⟩
    rw [Walk.map, h.bump? _ hx.here]
    rfl
  case determined =>
    intro ms ms' t t' ht ht' s hs s' hs' hoffset
    obtain ⟨x, -, hx, rfl⟩ := h.exists_of_run? ht
    obtain ⟨x', -, hx', rfl⟩ := h.exists_of_run? ht'
    rw [Walk.places_map] at hs hs'
    obtain ⟨y, hy, rfl⟩ := List.mem_map.mp hs
    obtain ⟨y', hy', rfl⟩ := List.mem_map.mp hs'
    rw [h.position y (hx y hy), h.position y' (hx' y' hy')] at hoffset
    rw [Split.eq_of_size_eq ((hx y hy).trans (hx' y' hy').symm) hoffset]
  case leap =>
    intro ms target hlegal
    obtain ⟨t, ht⟩ := (h.exists_run?_iff hstart (ms ++ [Move.advanceTo target])).mpr hlegal
    obtain ⟨x, hx, -⟩ := h.exists_of_run? ht
    rw [run?_append] at hx
    obtain ⟨y, hy, hleap⟩ := Option.bind_eq_some_iff.mp hx
    obtain ⟨n, hbumps, hbefore⟩ := exists_run?_advanceTo hleap
    refine ⟨n, ?_, ?_⟩
    · rw [hrun, hrun, run?_append, run?_append, hy, Option.bind_some, Option.bind_some, hleap,
        hbumps]
    · intro k hk
      have hk' := run?_append_replicate_bump hy k
      refine ⟨_, (hrun _).trans (congrArg _ hk'), ?_⟩
      rw [Walk.map, h.position _ (hstart.run? hk').here]
      exact hbefore k hk
  case excursion =>
    rintro before away behind ⟨t, ht⟩ hbehind
    obtain ⟨x, hx, -⟩ := h.exists_of_run? ht
    obtain ⟨y, z, hy, hz, hback⟩ := run?_excursion rfl hx
    rw [List.append_cons, run?_append _ (before ++ .keep :: away ++ [_]), run?_append _ before,
      hrun, hrun, hz, hy]
    simp only [Option.map_some, Option.bind_some]
    exact map_here_run?_congr hbehind (congrArg stand hback)

end Walker

/-! ### The walkers -/

/-- A text can be cut at the sizes of its first parts. -/
theorem Text.isSome_splitAt?_iff {offset : Nat} {cs : List Char} :
    (splitAt? offset cs).isSome = true ↔ ∃ before, before <+: cs ∧ size before = offset := by
  rw [Option.isSome_iff_exists]
  constructor
  · rintro ⟨⟨before, rest⟩, hsplit⟩
    obtain ⟨rfl, hsize⟩ := splitAt?_eq_some_iff.mp hsplit
    exact ⟨before, List.prefix_append .., hsize⟩
  · rintro ⟨before, ⟨rest, rfl⟩, rfl⟩
    exact ⟨_, splitAt?_size_append before rest⟩

/-- The cursors follow the rule. -/
theorem Cursor.follows_walker (text : List Char) :
    Cursor.walker.Follows text fun x => ⟨x.rest, .afterAll .start x.read⟩ where
  position x _ := Position.start_afterAll x.read
  bump? x _ := by
    obtain ⟨read, rest⟩ := x
    cases rest <;> simp [walker, Split.bump, peek?, advance, Position.afterAll_append]
  eatWhile? p x _ := by
    simp [walker, Split.eatWhile, eatWhile, Position.afterAll_append]
  advanceTo? target x _ := by
    simp only [walker, Cursor.advanceTo?, Split.advanceTo?, offset, Position.offset_start_afterAll]
    split
    · rfl
    · rw [Option.map_map]
      congr 1
      funext parts
      simp [Position.afterAll_append]
  restore _ _ _ _ := rfl

namespace Checked.Reader

/-- A reader leaps to where a character begins, and nowhere else. -/
theorem advanceTo?_eq_map (x : Split) (h : Fits x.text) (target : Nat) :
    (behind x.read x.rest).advanceTo? target =
      (x.advanceTo? target).map fun y => behind y.read y.rest := by
  cases hx : x.advanceTo? target with
  | some y =>
    obtain ⟨word, hrest, hread, rfl⟩ := Split.advanceTo?_eq_some_iff.mp hx
    rw [Split.text, hrest] at h
    rw [hrest, hread, size_append, advanceTo?_behind h, Option.map_some, hread]
  | none =>
    have hguard : ¬ (size x.read ≤ target ∧
        (splitAt? target (x.read ++ x.rest)).isSome = true) := by
      rw [isSome_splitAt?_iff]
      intro hpossible
      obtain ⟨y, hy⟩ := Split.exists_advanceTo?_iff.mpr hpossible
      rw [hx] at hy
      cases hy
    simp only [advanceTo?, offset_behind, text_behind, guard, hguard, if_false]
    rfl

/-- The readers of a text that fits follow the rule. -/
theorem follows_walker {text : List Char} (h : Fits text) :
    walker.Follows text fun x => behind x.read x.rest where
  position x _ := Position.start_afterAll x.read
  bump? x hx := by
    rw [← hx] at h
    obtain ⟨read, rest⟩ := x
    cases rest with
    | nil => simp [walker, Split.bump, bump?_behind_nil]
    | cons c rest => simp [walker, Split.bump, bump?_behind_cons h]
  eatWhile? p x hx := by
    rw [← hx] at h
    exact eatWhile?_behind h p
  advanceTo? target x hx := advanceTo?_eq_map x (hx ▸ h) target
  restore x y hx hy := by
    simp only [walker, restore, behind, Reader.mk.injEq, and_true]
    exact hx.trans hy.symm

end Checked.Reader

/-- The places of all walks through a text of fewer than `2 ^ 32 - 1` bytes are counted in it. -/
theorem places_walk (text : String) (h : size text.toList < UInt32.size - 1) :
    WalksCounted text := by
  have hreader := Checked.Reader.follows_walker (Nat.add_lt_of_lt_sub h : Checked.Fits text.toList)
  have hcursor := Cursor.follows_walker text.toList
  refine ⟨hcursor.countsIn, hreader.countsIn, ?_⟩
  intro ms
  have hstart := Walk.within_start text.toList
  refine (congrArg (Option.map _) (hreader.run? hstart ms)).trans ?_
  refine .trans ?_ (congrArg (Option.map _) (hcursor.run? hstart ms)).symm
  rw [Option.map_map, Option.map_map]
  rfl

/-- A walk over a character of two bytes and over line breaks, with a leap and a way back. -/
theorem places_walk_lines : size "é\n/*\n*/b".toList < UInt32.size - 1 ∧
    WalksCounted "é\n/*\n*/b" ∧
      (Cursor.walker.run? ⟨.ofText "é\n/*\n*/b", []⟩
        [.bump, .keep, .advanceTo 8, .keep, .restore 0, .eatWhile (· ≠ '*'), .keep]).map
          (fun t => t.places.map Cursor.position) =
        some [⟨4, 1, 1⟩, ⟨2, 0, 1⟩, ⟨8, 2, 2⟩, ⟨4, 1, 1⟩] :=
  ⟨by decide, places_walk _ (by decide), by decide⟩

end UsageScan
