import UsageScan.Text.Offset
/-!
# Cuts of a text

A byte offset at which a text can be cut names one first part of it, and an offset inside a
character names none. So slices are stated by the parts of the text around them, and a search by
the part before its first hit.

## Main definitions

* `cut?` — the parts of a text before and behind the first occurrence of another in it
* `Shortest` — the shortest one of some texts
* `OccursAt` — a text occurs in another behind some first characters

## Main results

* `prefix_of_size_le` — first parts of a text are ordered by the bytes that they take
* `cons_mem_of_append` — a character of two texts in a row belongs to one of them
* `slice?_eq_some_iff` — a slice is what lies between the two parts around it
* `findFrom?_eq_map_cut?` — a search finds the end of the part before the first occurrence
* `cut?_append` — what comes behind the first occurrence does not matter
* `shortest_of_cut?`, `exists_cut?_of_shortest` — what is cut at is the first occurrence
* `cut?_eq_none_iff` — there is no cut exactly if there is no occurrence
-/

set_option autoImplicit false

namespace UsageScan.Text

theorem size_pos {cs : List Char} (h : cs ≠ []) : 0 < size cs := by
  obtain ⟨c, cs, rfl⟩ := List.exists_cons_of_ne_nil h
  exact Nat.add_pos_left c.utf8Size_pos (size cs)

theorem size_mono {as bs : List Char} (h : as <+: bs) : size as ≤ size bs := by
  obtain ⟨cs, rfl⟩ := h
  rw [size_append]
  exact Nat.le_add_right ..

/-- Of two first parts of a text, the one that takes fewer bytes begins the other. -/
theorem prefix_of_size_le {as bs cs : List Char} (has : as <+: cs) (hbs : bs <+: cs)
    (h : size as ≤ size bs) : as <+: bs := by
  rcases List.prefix_or_prefix_of_prefix has hbs with hshort | ⟨more, rfl⟩
  · exact hshort
  · cases more with
    | nil => exact ⟨[], by simp⟩
    | cons c more =>
      have hpos := size_pos (List.cons_ne_nil c more)
      rw [size_append] at h
      omega

/-- A character of two texts in a row belongs to the first one or to the second one. -/
theorem cons_mem_of_append {as bs inner more : List Char} {c : Char}
    (h : as ++ bs = inner ++ c :: more) :
    (∃ more', as = inner ++ c :: more') ∨ ∃ inner', inner = as ++ inner' ∧
      bs = inner' ++ c :: more := by
  rcases List.append_eq_append_iff.mp h with ⟨inner', hinner, hbs⟩ | ⟨more', has, hmore⟩
  · exact Or.inr ⟨inner', hinner, hbs⟩
  · -- If the first text ends just before the character, the character is the second one's.
    cases more' with
    | nil => exact Or.inr ⟨[], by simpa using has.symm, by simpa using hmore.symm⟩
    | cons d more' =>
      obtain ⟨rfl, -⟩ := List.cons.inj hmore
      exact Or.inl ⟨more', has⟩

/-- The slice between two offsets is the part of the text that lies between what comes before the
first offset and what comes behind the second. -/
theorem slice?_eq_some_iff {cs word : List Char} {start stop : Nat} :
    slice? cs start stop = some word ↔
      ∃ before behind, cs = before ++ word ++ behind ∧ size before = start ∧
        start + size word = stop := by
  unfold slice?
  constructor
  · intro h
    split at h
    · contradiction
    · obtain ⟨⟨before, rest⟩, hfirst, h⟩ := Option.bind_eq_some_iff.mp h
      obtain ⟨⟨part, behind⟩, hsecond, hpart⟩ := Option.bind_eq_some_iff.mp h
      obtain rfl : part = word := by simpa using hpart
      obtain ⟨rfl, hbefore⟩ := splitAt?_eq_some_iff.mp hfirst
      obtain ⟨rfl, hsize⟩ := splitAt?_eq_some_iff.mp hsecond
      exact ⟨before, behind, by simp, hbefore, by omega⟩
  · -- Both cuts fall at the end of a known part, where `splitAt?` finds them.
    rintro ⟨before, behind, rfl, rfl, rfl⟩
    rw [ite_eq_right_iff.mpr fun hlt => absurd hlt (by omega), List.append_assoc,
      splitAt?_size_append]
    simp [splitAt?_size_append]

/-- The parts of a text before and behind the first occurrence of `needle` in it. -/
def cut? (needle : List Char) : List Char → Option (List Char × List Char)
  | [] => if needle = [] then some ([], []) else none
  | c :: cs =>
    if needle.isPrefixOf (c :: cs) then some ([], (c :: cs).drop needle.length)
    else (cut? needle cs).map fun (before, behind) => (c :: before, behind)

/-- A search for a text finds the end of the part before its first occurrence. -/
theorem findFrom?_eq_map_cut? (needle : List Char) (offset : Nat) (cs : List Char) :
    findFrom? needle offset cs = (cut? needle cs).map fun parts => offset + size parts.1 := by
  -- The search goes on from the next offset with every character that it passes over.
  induction cs generalizing offset with
  | nil =>
    simp only [findFrom?, cut?]
    split <;> simp
  | cons c cs ih =>
    simp only [findFrom?, cut?, ih]
    split
    · simp
    · simp [Function.comp_def, Nat.add_assoc]

/-- The parts around the first occurrence make up the text with what was looked for. -/
theorem append_of_cut? {needle cs before behind : List Char}
    (h : cut? needle cs = some (before, behind)) : cs = before ++ needle ++ behind := by
  induction cs generalizing before with
  | nil =>
    simp only [cut?] at h
    split at h
    · next hneedle =>
      cases h
      simp [hneedle]
    · contradiction
  | cons c cs ih =>
    simp only [cut?] at h
    split at h
    · next hstart =>
      cases h
      exact List.prefix_iff_eq_append.mp (List.isPrefixOf_iff_prefix.mp hstart) |>.symm
    · obtain ⟨⟨first, second⟩, hcut, hparts⟩ := Option.map_eq_some_iff.mp h
      cases hparts
      simp [← ih hcut]

/-- Behind the first occurrence, the text may go on as it likes. -/
theorem cut?_append {needle cs before behind : List Char} (more : List Char)
    (h : cut? needle cs = some (before, behind)) :
    cut? needle (cs ++ more) = some (before, behind ++ more) := by
  induction cs generalizing before with
  | nil =>
    obtain ⟨rfl, rfl, rfl⟩ : before = [] ∧ needle = [] ∧ behind = [] := by
      simpa using append_of_cut? h
    cases more <;> simp [cut?]
  | cons c cs ih =>
    simp only [cut?] at h
    by_cases hstart : needle.isPrefixOf (c :: cs) = true
    · rw [if_pos hstart] at h
      cases h
      have hfront := List.isPrefixOf_iff_prefix.mp hstart
      have hstart' : needle.isPrefixOf (c :: (cs ++ more)) = true :=
        List.isPrefixOf_iff_prefix.mpr (hfront.trans (List.prefix_append (c :: cs) more))
      rw [List.cons_append, cut?, if_pos hstart', ← List.cons_append,
        List.drop_append_of_le_length hfront.length_le]
    · rw [if_neg hstart] at h
      obtain ⟨⟨first, second⟩, hcut, hparts⟩ := Option.map_eq_some_iff.mp h
      cases hparts
      -- What occurs in `cs` is no longer than `cs`, so it does not begin before `more` either.
      have hle : needle.length ≤ (c :: cs).length := by
        rw [append_of_cut? hcut]
        simp only [List.length_cons, List.length_append]
        omega
      have hstart' : ¬ needle.isPrefixOf (c :: (cs ++ more)) = true := by
        rw [List.isPrefixOf_iff_prefix] at hstart ⊢
        intro hfront
        exact hstart (List.prefix_of_prefix_length_le hfront (List.prefix_append (c :: cs) more) hle)
      rw [List.cons_append, cut?, if_neg hstart', ih hcut]
      rfl

/-! ### First occurrences -/

/-- The shortest one of the texts with a property. -/
structure Shortest (p : List Char → Prop) (cs : List Char) : Prop where
  holds : p cs
  least : ∀ ds, p ds → cs.length ≤ ds.length

/-- Of the first parts of one text, only one is the shortest with a property. -/
theorem Shortest.unique {p : List Char → Prop} {as bs cs : List Char}
    (hp : ∀ ds, p ds → ds <+: cs) (has : Shortest p as) (hbs : Shortest p bs) : as = bs := by
  have hlength := Nat.le_antisymm (has.least bs hbs.holds) (hbs.least as has.holds)
  exact (List.prefix_of_prefix_length_le (hp as has.holds) (hp bs hbs.holds)
    (Nat.le_of_eq hlength)).eq_of_length hlength

/-- Behind the characters `before`, the text `cs` goes on with `needle`. -/
def OccursAt (needle cs before : List Char) : Prop :=
  before ++ needle <+: cs

theorem OccursAt.prefix_before {needle cs before : List Char} (h : OccursAt needle cs before) :
    before <+: cs :=
  (List.prefix_append before needle).trans h

/-- What does not begin a text occurs in it behind the first character, if at all. -/
theorem occursAt_cons_iff {needle cs before : List Char} {c : Char}
    (hstart : ¬ needle.isPrefixOf (c :: cs) = true) :
    OccursAt needle (c :: cs) before ↔ ∃ more, before = c :: more ∧ OccursAt needle cs more := by
  rw [List.isPrefixOf_iff_prefix] at hstart
  constructor
  · intro h
    cases before with
    | nil => exact absurd h hstart
    | cons d more =>
      obtain ⟨rfl, hmore⟩ := List.cons_prefix_cons.mp h
      exact ⟨more, rfl, hmore⟩
  · rintro ⟨more, rfl, hmore⟩
    exact List.cons_prefix_cons.mpr ⟨rfl, hmore⟩

/-- The cut is at the first occurrence. -/
theorem shortest_of_cut? {needle cs before behind : List Char}
    (h : cut? needle cs = some (before, behind)) : Shortest (OccursAt needle cs) before := by
  refine ⟨⟨behind, (append_of_cut? h).symm⟩, ?_⟩
  induction cs generalizing before with
  | nil =>
    obtain ⟨rfl, -, -⟩ : before = [] ∧ needle = [] ∧ behind = [] := by simpa using append_of_cut? h
    exact fun _ _ => Nat.zero_le _
  | cons c cs ih =>
    simp only [cut?] at h
    split at h
    · cases h
      exact fun _ _ => Nat.zero_le _
    · next hstart =>
      obtain ⟨⟨first, second⟩, hcut, hparts⟩ := Option.map_eq_some_iff.mp h
      cases hparts
      intro other hother
      obtain ⟨more, rfl, hmore⟩ := (occursAt_cons_iff hstart).mp hother
      exact Nat.succ_le_succ (ih hcut more hmore)

/-- There is no cut exactly if there is no occurrence. -/
theorem cut?_eq_none_iff {needle cs : List Char} :
    cut? needle cs = none ↔ ∀ before, ¬ OccursAt needle cs before := by
  constructor
  · intro h before hbefore
    induction cs generalizing before with
    | nil =>
      obtain ⟨-, rfl⟩ : before = [] ∧ needle = [] := by simpa using List.prefix_nil.mp hbefore
      simp [cut?] at h
    | cons c cs ih =>
      simp only [cut?] at h
      split at h
      · contradiction
      · next hstart =>
        obtain ⟨more, -, hmore⟩ := (occursAt_cons_iff hstart).mp hbefore
        exact ih (Option.map_eq_none_iff.mp h) more hmore
  · intro h
    cases hcut : cut? needle cs with
    | none => rfl
    | some parts => exact absurd (shortest_of_cut? hcut).holds (h parts.1)

/-- A first occurrence is cut at. -/
theorem exists_cut?_of_shortest {needle cs before : List Char}
    (h : Shortest (OccursAt needle cs) before) :
    ∃ behind, cut? needle cs = some (before, behind) := by
  cases hcut : cut? needle cs with
  | none => exact absurd h.holds (cut?_eq_none_iff.mp hcut before)
  | some parts =>
    obtain rfl := (shortest_of_cut? hcut).unique (fun _ => OccursAt.prefix_before) h
    exact ⟨parts.2, rfl⟩

end UsageScan.Text
