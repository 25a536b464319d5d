import UsageScan.Proofs.Limit
import UsageScan.Proofs.Telling
/-!
# Names under a length limit

A length limit can make one name of two, but never two of one: what a shorter limit leaves of a name
can be told from what a longer limit leaves of it. So a name that is known under the longer limit is
known under the shorter one as well, at every place of the source, and a name that is used stays
used. The shorter limit warns about fewer names, and about none that the longer one is silent about.

## Main definitions

* `NoLonger` — whether one length limit cuts off at least as much as another
* `Findings.Merges` — findings under the shorter limit that know all names that others know
* `NameLimits` — what the warnings about names have in common under two limits

## Main results

* `clip_clip` — what the shorter limit leaves of what the longer one has left
* `Findings.Merges.observeAll_occurrences` — one passage read under both limits
* `Scanner.exists_reads_merging` — all passages
* `name_limits` — a shorter limit warns about no further names
-/

set_option autoImplicit false

namespace UsageScan

open Text

/-- Whether a length limit cuts off at least as much as another one. -/
def NoLonger : Option Nat → Option Nat → Prop
  | _, none => True
  | none, some _ => False
  | some m, some n => m ≤ n

instance : DecidableRel NoLonger
  | _, none => isTrue trivial
  | none, some _ => isFalse id
  | some m, some n => Nat.decLe m n

/-- Whether a name was called undeclared while the token was pulled. -/
def Reading.callsUndeclared (r : Reading) : Bool :=
  r.recorded.any (·.kind = .undeclaredVariable)

/-- A reading of a token that is called undeclared only if the token is so in another reading. -/
structure Reading.Milder (r r' : Reading) : Prop where
  kind : r.token.kind = r'.token.kind
  span : r.token.span = r'.token.span
  undeclared : r.callsUndeclared = true → r'.callsUndeclared = true

/-- The warnings of a run about names that are not used. -/
def unusedWarnings (source : String) (options : Options) : List Warning :=
  (Run.ofSource source options).result.log.toList.filter (·.kind = .unusedVariable)

/-- What the warnings about names have in common under two length limits of which the first one is
no longer than the second one. -/
structure NameLimits (source : String) (options : Options) (m n : Option Nat) : Prop where
  /-- Token by token, a name is called undeclared under the shorter limit only if it is called so
  under the longer one. -/
  undeclared : List.Forall₂ Reading.Milder
    (Scanner.ofSource source (options.withLimit m)).readings
    (Scanner.ofSource source (options.withLimit n)).readings
  /-- A name is called unused under the shorter limit only where one is under the longer one. -/
  unused : ((unusedWarnings source (options.withLimit m)).map Warning.location).Sublist
    ((unusedWarnings source (options.withLimit n)).map Warning.location)
  /-- There are no more warnings about names that are not used. -/
  count : (Run.ofSource source (options.withLimit m)).result.log.countOf .unusedVariable ≤
    (Run.ofSource source (options.withLimit n)).result.log.countOf .unusedVariable
  /-- A name that is used under the longer limit is so under the shorter one, whatever other names
  have become the same. -/
  used : ∀ x ∈ (Run.ofSource source (options.withLimit n)).result.table.symbols, x.used = true →
    ∃ y ∈ (Run.ofSource source (options.withLimit m)).result.table.symbols,
      y.name = (clip m x.name.toList).1 ∧ y.used = true

variable {m n : Option Nat}

/-- What the shorter limit leaves of a text does not depend on whether the longer one has cut it. -/
theorem clip_clip (h : NoLonger m n) (text : List Char) :
    (clip m (clip n text).1.toList).1 = (clip m text).1 := by
  cases n with
  | none => simp [clip]
  | some n =>
    cases m with
    | none => exact h.elim
    | some m =>
      have hmin : min m n = m := Nat.min_eq_left h
      simp [clip, List.take_take, hmin]

/-- Texts that are the same under the longer limit are the same under the shorter one. -/
theorem clip_eq_of_clip_eq (h : NoLonger m n) {as bs : List Char}
    (heq : (clip n as).1 = (clip n bs).1) : (clip m as).1 = (clip m bs).1 :=
  calc (clip m as).1
    _ = (clip m (clip n as).1.toList).1 := (clip_clip h as).symm
    _ = (clip m (clip n bs).1.toList).1 := by rw [heq]
    _ = (clip m bs).1 := clip_clip h bs

/-! ### Which names are known -/

/-- Whether an occurrence declares a name. -/
def Occurrence.declares (name : String) (o : Occurrence) : Bool :=
  o.declared?.any (·.1 == name)

namespace Findings

/-- Whether a name has been declared. -/
def knows (f : Findings) (name : String) : Bool :=
  f.binder.table.contains name

variable (f : Findings) (name : String)

theorem table_endLine : f.endLine.binder.table = f.binder.table := by
  obtain ⟨b, lint⟩ := f
  cases lint with
  | none => rfl
  | some lint =>
    obtain ⟨pending, headerKeyword, headerDepth, depth⟩ := lint
    cases pending <;> rfl

/-- An occurrence makes known the name it declares. -/
theorem knows_observe (o : Occurrence) :
    (f.observe o).knows name = (f.knows name || o.declares name) := by
  cases o with
  | token t stop =>
    have hfollow : (f.binder.follow t).table.contains name = f.binder.table.contains name := by
      rw [Binder.follow]
      split
      · have hmark := f.binder.table.contains_markUsed name t.text
        rw [Binder.markUsed]
        split
        · next table htable => rwa [htable] at hmark
        · rfl
      · rfl
    exact hfollow.trans (Bool.or_false _).symm
  | declaration new line offset stop => exact f.binder.table.contains_declare name new line offset
  | lineBreak =>
    rw [observe, knows, table_endLine]
    exact (Bool.or_false _).symm
  | endOfText =>
    rw [observe, knows, table_endLine]
    exact (Bool.or_false _).symm

theorem knows_observeAll (seen : List Occurrence) :
    (f.observeAll seen).knows name = (f.knows name || seen.any (Occurrence.declares name)) := by
  induction seen generalizing f with
  | nil => exact (Bool.or_false _).symm
  | cons o seen ih => rw [observeAll_cons, ih, knows_observe, List.any_cons, Bool.or_assoc]

end Findings

namespace Passage

theorem any_declares_lineBreaksIn (cs : List Char) (name : String) :
    (lineBreaksIn cs).any (Occurrence.declares name) = false := by
  rw [List.any_eq_false]
  intro o ho
  rw [List.eq_of_mem_replicate ho]
  nofun

/-- Of what is come across in a passage, only its declared name declares a name. -/
theorem any_declares_occurrences (limit : Option Nat) (p : Position) (g : Passage) (name : String) :
    (g.occurrences limit p).any (Occurrence.declares name) =
      (decide (g.name ≠ []) && (clip limit g.name).1 == name) := by
  simp only [occurrences, List.any_cons, List.any_append, any_declares_lineBreaksIn]
  by_cases hname : g.name = []
  · simp [declaration, hname, Occurrence.declares, Occurrence.declared?]
  · simp [declaration, hname, Occurrence.declares, Occurrence.declared?]

end Passage

/-! ### A scan under both limits -/

namespace Findings

/-- Findings under a limit `m` that know each name which other findings know under a limit `n`. -/
def Merges (m n : Option Nat) (f f' : Findings) : Prop :=
  ∀ word : List Char, f'.knows (clip n word).1 = true → f.knows (clip m word).1 = true

variable {f f' : Findings}

/-- Reading the same passage keeps this up: a name it declares becomes known under both limits. -/
theorem Merges.observeAll_occurrences (h : NoLonger m n) (hf : Merges m n f f') (p : Position)
    (g : Passage) :
    Merges m n (f.observeAll (g.occurrences m p)) (f'.observeAll (g.occurrences n p)) := by
  intro word hword
  rw [knows_observeAll, Passage.any_declares_occurrences, Bool.or_eq_true, Bool.and_eq_true,
    beq_iff_eq] at hword ⊢
  rcases hword with hold | ⟨hname, hnew⟩
  · exact Or.inl (hf word hold)
  · exact Or.inr ⟨hname, clip_eq_of_clip_eq h hnew⟩

/-- Before the first token nothing is known. -/
theorem knows_start_observeAll (checkSemicolons : Bool) (cs : List Char) (name : String) :
    ((start checkSemicolons).observeAll (Passage.lineBreaksIn cs)).knows name = false := by
  rw [knows_observeAll, Passage.any_declares_lineBreaksIn]
  rfl

end Findings

/-- What is recorded calls the token undeclared exactly if its name is not known. -/
theorem Reading.callsUndeclared_iff {f : Findings} {t : Token} {ws : List Warning}
    (h : ws.filter (·.kind = .undeclaredVariable) = (f.undeclared? t).toList) :
    callsUndeclared ⟨t, ws⟩ = true ↔ t.kind = .identifier ∧ f.knows t.text = false := by
  have hcalls : callsUndeclared ⟨t, ws⟩ = true ↔ (f.undeclared? t).toList ≠ [] := by
    rw [← h, ne_eq, List.filter_eq_nil_iff, callsUndeclared, List.any_eq_true]
    simp
  rw [hcalls, Findings.undeclared?, Findings.knows]
  split <;> simp_all

namespace Scanner

/-- The passages in front of two scanners are read alike, the names under the shorter limit being
known at least as well. -/
theorem exists_reads_merging (h : NoLonger m n) (p : Position) (f f' : Findings) (cs : List Char)
    (hcs : ∀ c ∈ cs.head?, isBlank c = false) (hf : f.Merges m n f') :
    ∃ rs e rs' e', Reads (behind m cs p f) rs e ∧ Reads (behind n cs p f') rs' e' ∧
      List.Forall₂ Reading.Milder rs rs' := by
  -- The text alone decides on the passages, so both scanners go through the same ones.
  induction cs using Passage.all.induct generalizing p f f' with
  | case1 =>
    exact ⟨[], _, [], _, .none (next_behind_nil m p f) rfl, .none (next_behind_nil n p f') rfl,
      .nil⟩
  | case2 c cs ih =>
    have hc : isBlank c = false := hcs c (by simp)
    have hrest : ∀ d ∈ (Passage.front c cs).2.head?, isBlank d = false :=
      fun d => Passage.isBlank_of_mem_head?_front c cs
    obtain ⟨ws, hlog, -, hundeclared⟩ := exists_recorded m p c cs f
    obtain ⟨ws', hlog', -, hundeclared'⟩ := exists_recorded n p c cs f'
    obtain ⟨rs, e, rs', e', hreads, hreads', hall⟩ :=
      ih (p.afterAll (Passage.front c cs).1.chars) _ _ hrest (hf.observeAll_occurrences h p _)
    refine ⟨_ :: rs, e, _ :: rs', e', .some (next_behind_cons m p f cs hc) hlog hreads,
      .some (next_behind_cons n p f' cs hc) hlog' hreads', .cons ⟨rfl, rfl, ?_⟩ hall⟩
    rw [Reading.callsUndeclared_iff hundeclared, Reading.callsUndeclared_iff hundeclared']
    rintro ⟨hkind, hunknown⟩
    refine ⟨hkind, ?_⟩
    by_contra hknown
    have hmerged := hf _ (eq_true_of_ne_false hknown)
    rw [Passage.token, hmerged] at hunknown
    contradiction

theorem forall₂_readings (h : NoLonger m n) (source : String) (options : Options) :
    List.Forall₂ Reading.Milder (ofSource source (options.withLimit m)).readings
      (ofSource source (options.withLimit n)).readings := by
  let lead := source.toList.takeWhile isBlank
  let f := (Findings.start options.checkSemicolons).observeAll (Passage.lineBreaksIn lead)
  have hstart : f.Merges m n f := by
    intro word hword
    rw [Findings.knows_start_observeAll] at hword
    contradiction
  obtain ⟨rs, e, rs', e', hreads, hreads', hall⟩ := exists_reads_merging h
    (Position.start.afterAll lead) f f (source.toList.dropWhile isBlank)
    (fun _ => Passage.isBlank_of_mem_head?_dropWhile) hstart
  have hreadings : (ofSource source (options.withLimit m)).readings = rs :=
    (Reads.of_behind hreads).readings_eq
  have hreadings' : (ofSource source (options.withLimit n)).readings = rs' :=
    (Reads.of_behind hreads').readings_eq
  rw [hreadings, hreadings']
  exact hall

end Scanner

/-! ### The names used under both limits -/

section FirstsBy

variable {α β γ : Type} [DecidableEq β] [DecidableEq γ] {key : α → β} {key' : α → γ}

/-- Where one key tells less apart than another one, fewer elements are the first ones with it. -/
theorem firstsBy_sublist (h : ∀ a b, key' a = key' b → key a = key b) (as : List α) :
    (firstsBy key as).Sublist (firstsBy key' as) := by
  induction as with
  | nil => exact List.Sublist.refl _
  | cons a as ih =>
    refine List.Sublist.cons_cons a ((ih.filter _).trans (List.monotone_filter_right _ ?_))
    intro b hb
    simp only [ne_eq, decide_not, Bool.not_eq_true', decide_eq_false_iff_not] at hb ⊢
    exact fun heq => hb (h b a heq)

end FirstsBy

theorem DeclaredName.shown_eq_of_shown_eq (h : NoLonger m n) {d e : DeclaredName}
    (heq : d.shown n = e.shown n) : d.shown m = e.shown m :=
  clip_eq_of_clip_eq h heq

section Source

variable (source : String) (options : Options)

theorem mem_identifiersIn_iff {t : Token} : t ∈ identifiersIn source options ↔
    ∃ s ∈ Site.all source.toList, s.token options.maxTokenLength = t ∧ t.isIdentifier = true := by
  rw [identifiersIn, Scanner.tokens_eq_map_all, List.mem_filter, List.mem_map]
  constructor
  · rintro ⟨⟨s, hs, hst⟩, ht⟩
    exact ⟨s, hs, hst, ht⟩
  · rintro ⟨s, hs, hst, ht⟩
    exact ⟨⟨s, hs, hst⟩, ht⟩

/-- A use of a name under the longer limit is a use of what the shorter limit leaves of it, also
behind an earlier declaration. -/
theorem DeclaredName.isUsed_of_isUsed (h : NoLonger m n) {d e : DeclaredName}
    (hname : e.shown m = d.shown m) (hoffset : e.offset ≤ d.offset)
    (hused : d.isUsed n (identifiersIn source (options.withLimit n)) = true) :
    e.isUsed m (identifiersIn source (options.withLimit m)) = true := by
  rw [isUsed, List.any_eq_true] at hused ⊢
  obtain ⟨t, ht, huse⟩ := hused
  rw [decide_eq_true_iff] at huse
  obtain ⟨s, hs, rfl, hidentifier⟩ := (mem_identifiersIn_iff ..).mp ht
  refine ⟨s.token m, (mem_identifiersIn_iff ..).mpr ⟨s, hs, rfl, hidentifier⟩, ?_⟩
  rw [decide_eq_true_iff, hname]
  constructor
  · exact clip_eq_of_clip_eq h huse.1
  · exact Nat.lt_of_le_of_lt hoffset huse.2

/-- The declared names of a source come one after another. -/
theorem pairwise_offset_declaredIn :
    (declaredIn source options).Pairwise fun d e => d.offset < e.offset := by
  have hdeclarations : (Binder.declarations (Site.history options.maxTokenLength
      source.toList)).Pairwise fun x y => x.time < y.time := by
    refine List.Pairwise.filterMap _ ?_ (Site.pairwise_history options.maxTokenLength source.toList)
    intro x y hxy d hd e he
    rw [(Binder.Timed.of_declaration? hd).2, (Binder.Timed.of_declaration? he).2]
    exact hxy
  rw [declarations_history_eq, List.pairwise_map] at hdeclarations
  exact hdeclarations

/-- The name that a declared name has become under a limit was declared there or before. -/
theorem exists_firstDeclaredIn {d : DeclaredName} (hd : d ∈ declaredIn source options) :
    ∃ e ∈ firstDeclaredIn source options,
      e.shown options.maxTokenLength = d.shown options.maxTokenLength ∧ e.offset ≤ d.offset := by
  let key := DeclaredName.shown options.maxTokenLength
  have hsome : ((declaredIn source options).find? (key · = key d)).isSome = true :=
    List.find?_isSome.mpr ⟨d, hd, decide_eq_true rfl⟩
  obtain ⟨e, he⟩ := Option.isSome_iff_exists.mp hsome
  have hkey : key e = key d := by simpa using List.find?_some he
  refine ⟨e, (mem_firstsBy_iff key).mpr (by rwa [hkey]), hkey, ?_⟩
  -- Nothing before `e` has its key, so `d` is `e` itself or comes behind it.
  obtain ⟨-, before, behind, heq, hbefore⟩ := List.find?_eq_some_iff_append.mp he
  have hpairwise := pairwise_offset_declaredIn source options
  rw [heq] at hd hpairwise
  rcases List.mem_append.mp hd with hmem | hmem
  · simpa using hbefore d hmem
  · rcases List.mem_cons.mp hmem with rfl | hmem
    · exact Nat.le_refl _
    · exact Nat.le_of_lt
        ((List.pairwise_cons.mp (List.pairwise_append.mp hpairwise).2.1).1 d hmem)

/-- The names declared are the same, and fewer of them are the first ones. -/
theorem firstDeclaredIn_sublist (h : NoLonger m n) :
    (firstDeclaredIn source (options.withLimit m)).Sublist
      (firstDeclaredIn source (options.withLimit n)) := by
  rw [firstDeclaredIn, firstDeclaredIn, declaredIn_eq, declaredIn_eq]
  exact firstsBy_sublist (fun _ _ => DeclaredName.shown_eq_of_shown_eq h) _

/-- The warnings about unused names are those of the symbols, and the scan adds none. -/
theorem unusedWarnings_eq : unusedWarnings source options =
    ((firstDeclaredIn source options).filter
      fun d => !d.isUsed options.maxTokenLength (identifiersIn source options)).map
        fun d => .unused (d.shown options.maxTokenLength) ⟨d.line, d.offset⟩ := by
  have hscan : (Scanner.ofSource source options).finish.log.toList.filter
      (·.kind = .unusedVariable) = [] := by
    rw [List.filter_eq_nil_iff]
    intro w hw
    simpa using (Scanner.hold_drain_ofSource source options).unused w hw
  have hsymbols : (Scanner.ofSource source options).finish.table.unusedWarnings.filter
      (·.kind = .unusedVariable) =
        (Scanner.ofSource source options).finish.table.unusedWarnings := by
    rw [List.filter_eq_self]
    intro w hw
    simp [SymbolTable.kind_of_mem_unusedWarnings hw]
  rw [unusedWarnings, log_result_ofSource, List.filter_append, hscan, hsymbols, List.nil_append,
    unusedWarnings_finish_ofSource]

theorem countOf_unusedVariable :
    (Run.ofSource source options).result.log.countOf .unusedVariable =
      (unusedWarnings source options).length := by
  rw [unusedWarnings, ← List.countP_eq_length_filter, WarningLog.countOf, ← Array.countP_toList]
  rfl

theorem unusedWarnings_sublist (h : NoLonger m n) :
    ((unusedWarnings source (options.withLimit m)).map Warning.location).Sublist
      ((unusedWarnings source (options.withLimit n)).map Warning.location) := by
  -- The places do not depend on the limit, only which names are told of.
  rw [unusedWarnings_eq, unusedWarnings_eq, List.map_map, List.map_map]
  refine List.Sublist.map (fun d : DeclaredName => some (⟨d.line, d.offset⟩ : Location)) ?_
  refine ((firstDeclaredIn_sublist source options h).filter _).trans
    (List.monotone_filter_right _ ?_)
  intro d hunused
  rw [Bool.not_eq_true'] at hunused ⊢
  by_contra hused
  have husedToo := DeclaredName.isUsed_of_isUsed source options h rfl (Nat.le_refl _)
    (eq_true_of_ne_false hused)
  exact Bool.false_ne_true (hunused.symm.trans husedToo)

theorem symbols_result_ofSource : (Run.ofSource source options).result.table.symbols =
    (firstDeclaredIn source options).map fun d => ⟨d.shown options.maxTokenLength, d.line, d.offset,
      d.isUsed options.maxTokenLength (identifiersIn source options)⟩ := by
  rw [table_result_ofSource, symbols_finish_ofSource]

end Source

/-- A shorter length limit warns about no further names. -/
theorem name_limits (source : String) (options : Options) (h : NoLonger m n) :
    NameLimits source options m n where
  undeclared := Scanner.forall₂_readings h source options
  unused := unusedWarnings_sublist source options h
  count := by
    have hle := (unusedWarnings_sublist source options h).length_le
    rw [List.length_map, List.length_map] at hle
    rwa [countOf_unusedVariable, countOf_unusedVariable]
  used := by
    intro x hx hused
    rw [symbols_result_ofSource] at hx
    obtain ⟨d, hd, rfl⟩ := List.mem_map.mp hx
    have hdeclared : d ∈ declaredIn source (options.withLimit m) := by
      rw [declaredIn_eq, ← declaredIn_eq source (options.withLimit n)]
      exact List.mem_of_find?_eq_some ((mem_firstsBy_iff _).mp hd)
    obtain ⟨e, he, hname, hoffset⟩ := exists_firstDeclaredIn source _ hdeclared
    refine ⟨_, by rw [symbols_result_ofSource]; exact List.mem_map_of_mem he, ?_, ?_⟩
    · exact hname.trans (clip_clip h d.name).symm
    · exact DeclaredName.isUsed_of_isUsed source options h hname hoffset hused

/-- Under a limit of one character, the use of one name is the use of another one. -/
theorem name_limits_merged : NoLonger (some 1) (some 2) ∧
    NameLimits "var ab\nac" .default (some 1) (some 2) ∧
    unusedWarnings "var ab\nac" (Options.default.withLimit (some 1)) = [] ∧
    unusedWarnings "var ab\nac" (Options.default.withLimit (some 2)) = [.unused "ab" ⟨1, 4⟩] := by
  refine ⟨by decide, name_limits _ _ (by decide), ?_, ?_⟩
  · decide +kernel
  · decide +kernel

end UsageScan
