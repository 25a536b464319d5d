import UsageScan.Proofs.Scan
/-!
# What a pull records

While a token is pulled, warnings may be recorded before it is handed out: one if it is a name that
is not declared, and behind that one if a line ends there that lacks a semicolon. However many lines
end behind a token, only the first of them can be warned about, because the end of a line leaves
nothing to warn about.

## Main definitions

* `Findings.unended?` — the warning that the end of the line would bring about
* `Token.Brings` — the warnings that the pull of a token can bring about

## Main results

* `Findings.log_observeAll_of_endsLine` — what is recorded while lines end
* `Scanner.exists_recorded` — what is recorded while a token is pulled
-/

set_option autoImplicit false

namespace UsageScan

open Text

/-- Whether an occurrence ends a line. -/
def Occurrence.endsLine : Occurrence → Bool
  | token _ _ => false
  | declaration _ _ _ _ => false
  | lineBreak => true
  | endOfText => true

/-! ### One occurrence -/

namespace Findings

variable (f : Findings)

/-- The warning that the end of the line would bring about. -/
def unended? : Option Warning :=
  f.lint.bind fun lint => lint.pending.map .missingSemicolon

/-- The warning that a token brings about if it is a name that is not declared. -/
def undeclared? (t : Token) : Option Warning :=
  if t.kind = .identifier ∧ f.binder.table.contains t.text = false then some (.undeclared t.text)
  else none

theorem log_endLine : f.endLine.log.toList = f.log.toList ++ f.unended?.toList := by
  obtain ⟨b, lint⟩ := f
  cases lint with
  | none => exact (List.append_nil _).symm
  | some lint =>
    obtain ⟨pending, headerKeyword, headerDepth, depth⟩ := lint
    cases pending with
    | none => exact (List.append_nil _).symm
    | some place => exact WarningLog.toList_add ..

/-- The end of a line leaves nothing to warn about. -/
theorem unended?_endLine : f.endLine.unended? = none := by
  obtain ⟨b, lint⟩ := f
  cases lint with
  | none => rfl
  | some lint =>
    obtain ⟨pending, headerKeyword, headerDepth, depth⟩ := lint
    cases pending <;> rfl

theorem observe_of_endsLine {o : Occurrence} (h : o.endsLine = true) : f.observe o = f.endLine := by
  cases o with
  | token t stop => contradiction
  | declaration name line offset stop => contradiction
  | lineBreak => rfl
  | endOfText => rfl

theorem log_observe_token (t : Token) (stop : Location) :
    (f.observe (.token t stop)).log.toList = f.log.toList ++ (f.undeclared? t).toList := by
  simp only [observe, log, Binder.follow, undeclared?]
  by_cases hkind : t.kind = .identifier
  · by_cases hdeclared : f.binder.table.contains t.text
    · simp [hkind, hdeclared, Binder.markUsed, SymbolTable.markUsed]
    · simp [hkind, hdeclared, Binder.markUsed, SymbolTable.markUsed]
  · simp [hkind]

/-- A declared name is not warned about. -/
theorem log_observe_declaration (name : String) (line offset : Nat) (stop : Location) :
    (f.observe (.declaration name line offset stop)).log = f.log :=
  rfl

/-- Behind a keyword that is no value, a line may end. -/
theorem unended?_observe_keyword {t : Token} (stop : Location) (hkind : t.kind = .keyword)
    (hvalue : isValueKeyword t.text = false) : (f.observe (.token t stop)).unended? = none := by
  obtain ⟨b, lint⟩ := f
  cases lint with
  | none => rfl
  | some lint =>
    simp [observe, unended?, SemicolonLint.observe, SemicolonLint.endsStatement, hkind, hvalue]

/-! ### Ends of lines -/

/-- Where there is nothing to warn about, lines may end. -/
theorem observeAll_of_unended? {f : Findings} {seen : List Occurrence}
    (hseen : ∀ o ∈ seen, o.endsLine = true) (h : f.unended? = none) :
    (f.observeAll seen).log.toList = f.log.toList ∧ (f.observeAll seen).unended? = none := by
  induction seen generalizing f with
  | nil => exact ⟨rfl, h⟩
  | cons o seen ih =>
    have hmore : ∀ o ∈ seen, o.endsLine = true := fun o ho => hseen o (List.mem_cons_of_mem _ ho)
    obtain ⟨hlog, hnone⟩ := ih hmore f.unended?_endLine
    rw [observeAll_cons, f.observe_of_endsLine (hseen o List.mem_cons_self)]
    refine ⟨?_, hnone⟩
    rw [hlog, log_endLine, h]
    exact List.append_nil _

/-- Of several ends of lines, only the first one can be warned about. -/
theorem log_observeAll_of_endsLine {seen : List Occurrence}
    (hseen : ∀ o ∈ seen, o.endsLine = true) : (f.observeAll seen).log.toList =
      f.log.toList ++ if seen.isEmpty then [] else f.unended?.toList := by
  cases seen with
  | nil => exact (List.append_nil _).symm
  | cons o seen =>
    have hmore : ∀ o ∈ seen, o.endsLine = true := fun o ho => hseen o (List.mem_cons_of_mem _ ho)
    rw [observeAll_cons, f.observe_of_endsLine (hseen o List.mem_cons_self),
      (observeAll_of_unended? hmore f.unended?_endLine).1, log_endLine]
    rfl

end Findings

theorem Passage.endsLine_of_mem_lineBreaksIn {cs : List Char} {o : Occurrence}
    (h : o ∈ lineBreaksIn cs) : o.endsLine = true := by
  rw [List.eq_of_mem_replicate h]
  rfl

/-! ### One pull -/

/-- The warnings that the pull of a token can bring about: one if it is a name, and behind that one
about a semicolon. -/
def Token.Brings (t : Token) (ws : List Warning) : Prop :=
  ∃ undeclared semicolon : Option Warning, ws = undeclared.toList ++ semicolon.toList ∧
    (∀ w ∈ undeclared, t.kind = .identifier ∧ w = .undeclared t.text) ∧
    ∀ w ∈ semicolon, w.kind = .missingSemicolon

namespace Findings

theorem eq_of_mem_undeclared? {f : Findings} {t : Token} {w : Warning} (h : w ∈ f.undeclared? t) :
    t.kind = .identifier ∧ w = .undeclared t.text := by
  simp only [undeclared?, Option.mem_def, Option.ite_none_right_eq_some, Option.some.injEq] at h
  exact ⟨h.1.1, h.2.symm⟩

theorem kind_of_mem_unended? {f : Findings} {w : Warning} (h : w ∈ f.unended?) :
    w.kind = .missingSemicolon := by
  simp only [unended?, Option.mem_def, Option.bind_eq_some_iff, Option.map_eq_some_iff] at h
  obtain ⟨lint, -, place, -, rfl⟩ := h
  rfl

/-- What a token and the end of its line record can be brought about by the token. -/
theorem brings_append (f f' : Findings) (t : Token) (quiet : Bool) :
    t.Brings ((f.undeclared? t).toList ++ if quiet then [] else f'.unended?.toList) := by
  refine ⟨f.undeclared? t, if quiet then none else f'.unended?, ?_, ?_, ?_⟩
  · split <;> rfl
  · intro w hw
    exact eq_of_mem_undeclared? hw
  · intro w hw
    split at hw
    · contradiction
    · exact kind_of_mem_unended? hw

/-- Of these, only the first one calls a name undeclared. -/
theorem filter_append_unended (f f' : Findings) (t : Token) (quiet : Bool) :
    ((f.undeclared? t).toList ++ if quiet then [] else f'.unended?.toList).filter
      (·.kind = .undeclaredVariable) = (f.undeclared? t).toList := by
  have hundeclared : (f.undeclared? t).toList.filter (·.kind = .undeclaredVariable) =
      (f.undeclared? t).toList := by
    rw [List.filter_eq_self]
    intro w hw
    rw [(eq_of_mem_undeclared? (Option.mem_toList.mp hw)).2]
    rfl
  have hunended : (if quiet then [] else f'.unended?.toList).filter
      (·.kind = .undeclaredVariable) = [] := by
    rw [List.filter_eq_nil_iff]
    intro w hw
    split at hw
    · contradiction
    · simp [kind_of_mem_unended? (Option.mem_toList.mp hw)]
  rw [List.filter_append, hundeclared, hunended, List.append_nil]

end Findings

/-- No text that a keyword of declarations begins with is a keyword that is a value. -/
theorem isValueKeyword_clip {word : List Char} (limit : Option Nat)
    (h : isDeclarationKeyword (.ofList word) = true) :
    isValueKeyword (clip limit word).1 = false := by
  have hall : ∀ d ∈ declarationKeywords, ∀ v ∈ ["null", "true", "false"],
      ¬ v.toList <+: d.toList := by decide
  have hword : String.ofList word ∈ declarationKeywords := by
    simpa [isDeclarationKeyword] using h
  by_contra hvalue
  refine hall _ hword (clip limit word).1 ?_ ?_
  · exact List.contains_iff_mem.mp (eq_true_of_ne_false hvalue)
  · simpa using clip_prefix limit word

namespace Passage

variable (limit : Option Nat) (p : Position) (c : Char) (cs : List Char)

/-- Only behind a declaration keyword there are blanks before the name. -/
theorem declares_of_gap_ne_nil (h : (front c cs).1.gap ≠ []) :
    (front c cs).1.form.declares = true := by
  rw [form_front]
  by_contra hdeclares
  simp [front, ofForm, hdeclares] at h

/-- Lines that end between a declaration keyword and its name are not warned about. -/
theorem log_observeAll_gap (f : Findings) :
    let g := (front c cs).1
    let f' := f.observe (.token (g.token limit p) (p.afterAll g.form.word).location)
    (f'.observeAll (lineBreaksIn g.gap)).log.toList = f'.log.toList := by
  intro g f'
  by_cases hgap : g.gap = []
  · rw [hgap]
    rfl
  · -- The keyword in front of the blanks is not one that could end a statement.
    have hdeclares : g.form.kind = .keyword ∧ isDeclarationKeyword (.ofList g.form.word) = true := by
      simpa [Form.declares] using declares_of_gap_ne_nil c cs hgap
    have hshown : g.form.shown = g.form.word := by
      have hform : g.form = (Form.front c cs).1 := form_front c cs
      rw [hform] at hdeclares ⊢
      exact Form.shown_eq_word_of_keyword hdeclares.1
    have hvalue : isValueKeyword (g.token limit p).text = false := by
      rw [token, hshown]
      exact isValueKeyword_clip limit hdeclares.2
    have hquiet : f'.unended? = none := f.unended?_observe_keyword _ hdeclares.1 hvalue
    exact (Findings.observeAll_of_unended? (fun _ => endsLine_of_mem_lineBreaksIn) hquiet).1

/-- Reading the name behind a declaration keyword records nothing. -/
theorem log_observeAll_declaration (f : Findings) (name : List Char) :
    (f.observeAll (declaration limit p name)).log = f.log := by
  unfold declaration
  split <;> rfl

end Passage

/-- All that is recorded in a passage before its blanks is about the token as a name. -/
theorem Passage.log_observeAll_core (limit : Option Nat) (p : Position) (c : Char) (cs : List Char)
    (f : Findings) :
    let g := (front c cs).1
    (f.observeAll (g.coreOccurrences limit p)).log.toList =
      f.log.toList ++ (f.undeclared? (g.token limit p)).toList := by
  intro g
  rw [coreOccurrences, Findings.observeAll_cons, Findings.observeAll_append,
    log_observeAll_declaration, log_observeAll_gap, Findings.log_observe_token]

/-- Behind the name of a passage only lines end, at line breaks and perhaps at the end of the
source. -/
theorem Scanner.exists_endsLine_behind (limit : Option Nat) (p q : Position) (g : Passage)
    (rest : List Char) (f : Findings) : ∃ ends : List Occurrence,
    (∀ o ∈ ends, o.endsLine = true) ∧
      (behind limit rest q (f.observeAll (g.occurrences limit p))).findings =
        (f.observeAll (g.coreOccurrences limit p)).observeAll ends := by
  refine ⟨Passage.lineBreaksIn g.blanks ++ if rest.isEmpty then [.endOfText] else [], ?_, ?_⟩
  · intro o ho
    rcases List.mem_append.mp ho with ho | ho
    · exact Passage.endsLine_of_mem_lineBreaksIn ho
    · split at ho
      · rw [List.mem_singleton.mp ho]
        rfl
      · contradiction
  · simp only [behind, Passage.occurrences_eq, Findings.observeAll_append]
    split <;> rfl

/-- While a token is pulled, its own warnings are recorded, and nothing else. It is called undeclared
if its name has not been declared so far. -/
theorem Scanner.exists_recorded (limit : Option Nat) (p : Position) (c : Char) (cs : List Char)
    (f : Findings) :
    let g := (Passage.front c cs).1
    let s := behind limit (Passage.front c cs).2 (p.afterAll g.chars)
      (f.observeAll (g.occurrences limit p))
    ∃ ws, s.findings.log.toList = f.log.toList ++ ws ∧ (g.token limit p).Brings ws ∧
      ws.filter (·.kind = .undeclaredVariable) = (f.undeclared? (g.token limit p)).toList := by
  intro g s
  obtain ⟨ends, hends, hfindings⟩ :=
    exists_endsLine_behind limit p (p.afterAll g.chars) g (Passage.front c cs).2 f
  have hcore : (f.observeAll (g.coreOccurrences limit p)).log.toList =
      f.log.toList ++ (f.undeclared? (g.token limit p)).toList :=
    Passage.log_observeAll_core limit p c cs f
  have hlog := (f.observeAll (g.coreOccurrences limit p)).log_observeAll_of_endsLine hends
  rw [hcore, List.append_assoc, ← hfindings] at hlog
  exact ⟨_, hlog, Findings.brings_append .., Findings.filter_append_unended ..⟩

end UsageScan
