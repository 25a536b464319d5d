import UsageScan.Scanner
import UsageScan.Proofs.Layout
/-!
# Scans

A scanner asked for all its tokens goes through the layout of the text in front of it, from left to
right and to the end. It hands out the tokens of the layout, and what it has found in the end is what
comes of the occurrences of the layout.

## Main definitions

* `Scanner.tokens` — the tokens a scanner hands out until none is left

## Main results

* `Scanner.drainFrom_behind` — handing out all tokens, from any point of a scan
* `Scanner.tokens_ofSource`, `Scanner.findings_drain_ofSource` — the tokens and the findings of a
  whole source
-/

set_option autoImplicit false

namespace UsageScan

open Text

namespace Findings

@[simp] theorem observeAll_nil (f : Findings) : f.observeAll [] = f := rfl

@[simp] theorem observeAll_cons (f : Findings) (o : Occurrence) (seen : List Occurrence) :
    f.observeAll (o :: seen) = (f.observe o).observeAll seen := rfl

theorem observeAll_append (f : Findings) (seen more : List Occurrence) :
    f.observeAll (seen ++ more) = (f.observeAll seen).observeAll more :=
  List.foldl_append

end Findings

namespace Scanner

/-- The tokens a scanner hands out until none is left. -/
def tokens (s : Scanner) : List Token :=
  s.drain.1.toList.map ScanStep.token

/-- The scanner behind a passage, or behind the blanks at the start of its source: `f` is what has
been found, and at the end of the source that is added. -/
def behind (limit : Option Nat) (rest : List Char) (p : Position) (f : Findings) : Scanner :=
  ⟨limit, ⟨rest, p⟩, if rest.isEmpty then f.observe .endOfText else f, rest.isEmpty⟩

/-- The tokens handed out over some passages, each with the scanner behind it. -/
def handedOut (limit : Option Nat) :
    Position → Findings → List Passage → List (Token × Scanner)
  | _, _, [] => []
  | p, f, g :: gs =>
    let q := p.afterAll g.chars
    let f' := f.observeAll (g.occurrences limit p)
    (g.token limit p, behind limit (gs.flatMap Passage.chars) q f') :: handedOut limit q f' gs

/-- The steps that tell of tokens handed out one after another. The first `told` warnings have been
told before. -/
def stepsOf (told : Nat) : List (Token × Scanner) → List ScanStep
  | [] => []
  | (token, s) :: more => s.step told token :: stepsOf s.findings.log.size more

theorem map_token_stepsOf (told : Nat) (more : List (Token × Scanner)) :
    (stepsOf told more).map ScanStep.token = more.map Prod.fst := by
  induction more generalizing told with
  | nil => rfl
  | cons ts more ih => simp [stepsOf, step, ih]

variable (limit : Option Nat) (p : Position) (f : Findings)

theorem map_fst_handedOut (gs : List Passage) :
    (handedOut limit p f gs).map Prod.fst = Passage.tokens limit p gs := by
  induction gs generalizing p f with
  | nil => rfl
  | cons g gs ih => simp [handedOut, Passage.tokens, ih]

/-! ### One step -/

/-- At the end nothing is handed out and nothing changes. -/
theorem next_behind_nil : (behind limit [] p f).next = (none, behind limit [] p f) :=
  rfl

/-- The scanner hands out the token of the passage at the front and goes behind that passage. -/
theorem next_behind_cons {c : Char} (cs : List Char) (hc : isBlank c = false) :
    let g := (Passage.front c cs).1
    (behind limit (c :: cs) p f).next = (some (g.token limit p),
      behind limit (Passage.front c cs).2 (p.afterAll g.chars)
        (f.observeAll (g.occurrences limit p))) := by
  simp only [behind, next, List.isEmpty_cons, Bool.false_eq_true, if_false,
    Cursor.skipBlanks_cons p cs hc, Pull.lineBreaks_self, Findings.observeAll_nil, Pull.read?_cons,
    Findings.observeAll_append]
  -- A pull that reaches the end tells so, and `behind` adds just that.
  cases (Passage.front c cs).2 with
  | nil => rfl
  | cons d rest => rfl

/-- A scanner in front of blanks goes on like the one behind them. If nothing else is left, the end
is seen only now. -/
theorem next_mk (cs : List Char) :
    (⟨limit, ⟨cs, p⟩, f, false⟩ : Scanner).next =
      (behind limit (cs.dropWhile isBlank) (p.afterAll (cs.takeWhile isBlank))
        (f.observeAll (Passage.lineBreaksIn (cs.takeWhile isBlank)))).next := by
  simp only [next, Bool.false_eq_true, if_false, Cursor.skipBlanks, Cursor.eatWhile_mk,
    Pull.lineBreaks_afterAll]
  -- The scanner behind the blanks skips blanks again, but finds none.
  cases hbody : cs.dropWhile isBlank with
  | nil => rfl
  | cons c ds =>
    have hc : isBlank c = false := by
      simpa [hbody] using List.head?_dropWhile_not isBlank cs
    have hskip := Cursor.skipBlanks_cons (p.afterAll (cs.takeWhile isBlank)) ds hc
    rw [Cursor.skipBlanks] at hskip
    simp only [behind, List.isEmpty_cons, Bool.false_eq_true, if_false, hskip, Pull.lineBreaks_self,
      Findings.observeAll_nil]

/-! ### A whole scan -/

theorem drainFrom_none {s s' : Scanner} {told : Nat} {steps : Array ScanStep}
    (h : s.next = (none, s')) : s.drainFrom told steps = (steps, s') := by
  rw [drainFrom]
  split <;> simp_all

theorem drainFrom_some {s s' : Scanner} {told : Nat} {steps : Array ScanStep} {token : Token}
    (h : s.next = (some token, s')) : s.drainFrom told steps =
      s'.drainFrom s'.findings.log.size (steps.push (s'.step told token)) := by
  rw [drainFrom]
  split <;> simp_all

/-- A scanner that is asked for all tokens goes through the passages in front of it. -/
theorem drainFrom_behind (cs : List Char) (hcs : ∀ c ∈ cs.head?, isBlank c = false) (told : Nat)
    (steps : Array ScanStep) :
    (behind limit cs p f).drainFrom told steps =
      (steps ++ (stepsOf told (handedOut limit p f (Passage.all cs))).toArray,
        behind limit [] (p.afterAll cs)
          (f.observeAll (Passage.allOccurrences limit p (Passage.all cs)))) := by
  -- The induction follows the passages; the steps made so far are only carried along.
  induction cs using Passage.all.induct generalizing p f told steps with
  | case1 =>
    rw [drainFrom_none (next_behind_nil limit p f), Passage.all_nil]
    simp [handedOut, stepsOf, Passage.allOccurrences]
  | case2 c cs ih =>
    have hc : isBlank c = false := hcs c (by simp)
    have hrest : ∀ d ∈ (Passage.front c cs).2.head?, isBlank d = false :=
      fun d => Passage.isBlank_of_mem_head?_front c cs
    have hstop : p.afterAll (c :: cs) =
        (p.afterAll (Passage.front c cs).1.chars).afterAll (Passage.front c cs).2 := by
      rw [← Position.afterAll_append, Passage.append_front]
    rw [drainFrom_some (next_behind_cons limit p f cs hc), ih _ _ hrest, Passage.all_cons, hstop]
    simp [handedOut, stepsOf, Passage.allOccurrences, Passage.flatMap_all,
      Findings.observeAll_append]

/-- What a scanner hands out is decided by what it does next. -/
theorem drainFrom_congr {s s' : Scanner} (h : s.next = s'.next) (told : Nat)
    (steps : Array ScanStep) : s.drainFrom told steps = s'.drainFrom told steps := by
  cases hnext : s'.next with
  | mk token t =>
    rw [hnext] at h
    cases token with
    | none => rw [drainFrom_none h, drainFrom_none hnext]
    | some token => rw [drainFrom_some h, drainFrom_some hnext]

/-- A scanner hands out the tokens of the passages of its source, and sees all of it. -/
theorem drain_ofSource (source : String) (options : Options) :
    let start := Findings.start options.checkSemicolons
    let y := Layout.ofText source.toList
    let q := Position.start.afterAll y.lead
    (ofSource source options).drain = ((stepsOf start.log.size (handedOut options.maxTokenLength q
        (start.observeAll (Passage.lineBreaksIn y.lead)) y.passages)).toArray,
      behind options.maxTokenLength [] (.afterAll .start source.toList)
        (start.observeAll (Passage.lineBreaksIn y.lead ++
          Passage.allOccurrences options.maxTokenLength q y.passages))) := by
  intro start y q
  have hhead : ∀ c ∈ (source.toList.dropWhile isBlank).head?, isBlank c = false :=
    fun _ => Passage.isBlank_of_mem_head?_dropWhile
  have hstop : Position.start.afterAll source.toList =
      q.afterAll (source.toList.dropWhile isBlank) := by
    rw [← Position.afterAll_append]
    exact congrArg _ List.takeWhile_append_dropWhile.symm
  have hnext := next_mk options.maxTokenLength .start start source.toList
  rw [drain, ofSource, Cursor.ofText, drainFrom_congr hnext, drainFrom_behind _ _ _ _ hhead, hstop,
    Findings.observeAll_append]
  simp [y, Layout.ofText, q, start]

/-- A scanner hands out the tokens of the layout of its source. -/
theorem tokens_ofSource (source : String) (options : Options) :
    (ofSource source options).tokens =
      (Layout.ofText source.toList).tokens options.maxTokenLength .start := by
  rw [tokens, drain_ofSource, List.toList_toArray, map_token_stepsOf, map_fst_handedOut]
  rfl

/-- What a scanner has found in the end comes of all that is come across in its source. -/
theorem findings_drain_ofSource (source : String) (options : Options) :
    (ofSource source options).drain.2.findings =
      (Findings.start options.checkSemicolons).observeAll
        (Pull.occurrencesFrom options.maxTokenLength (.ofText source)) := by
  rw [drain_ofSource, Cursor.ofText, Pull.occurrencesFrom_mk, Layout.occurrences,
    ← List.append_assoc, Findings.observeAll_append _ _ [.endOfText]]
  rfl

end Scanner

end UsageScan
