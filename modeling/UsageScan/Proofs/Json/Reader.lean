import UsageScan.Proofs.Json.Strings
/-!
# Reading JSON texts

A strict reader of whole documents. It accepts the texts of the grammar and no others, and reads each
of them as the value that it spells. So no text spells two values.

## Main definitions

* `Json.readScalar?` — a number or a word
* `Json.readList?` — things with commas between them, up to a bracket
* `Json.readValue?` — a value
* `Json.parse?` — a document

## Main results

* `Json.readList?_of_listed`, `Json.exists_of_readList?` — which texts are read as lists
* `Json.Spells.takes` — what spells a value is read as this value
* `Json.exists_of_readValue?` — what is read as a value spells it
* `Json.parse?_eq_some_iff` — the documents are read, and nothing else
-/

set_option autoImplicit false

namespace UsageScan.Json

/-! ### The reader -/

/-- The value that a word stands for. -/
def scalar? (word : List Char) : Option Json :=
  if word = ['n', 'u', 'l', 'l'] then some .null
  else if word = ['t', 'r', 'u', 'e'] then some (.bool true)
  else if word = ['f', 'a', 'l', 's', 'e'] then some (.bool false)
  else if isNumber word then some (.number (.ofList word))
  else none

/-- A number, `null`, `true` or `false`. It ends where a delimiter stands. -/
def readScalar? (cs : List Char) : Option (Json × List Char) :=
  (scalar? (cs.takeWhile (!isDelimiter ·))).map fun v => (v, cs.dropWhile (!isDelimiter ·))

/-- A string. -/
def readQuoted? : List Char → Option (String × List Char)
  | '"' :: cs =>
    match readString cs with
    | .ok p => some p
    | .error _ => none
  | _ => none

section List

variable {α : Type} (one : List Char → Option (α × List Char)) (close : Char)

/-- At most `count` things with commas between them, at least one, and the bracket behind them. -/
def readItems? : Nat → List Char → Option (List α × List Char)
  | 0, _ => none
  | count + 1, cs => do
    let (item, rest) ← one (skipBlanks cs)
    match skipBlanks rest with
    | [] => none
    | c :: rest =>
      if c = ',' then (readItems? count rest).map fun p => (item :: p.1, p.2)
      else if c = close then some ([item], rest)
      else none

/-- Things with commas between them, and the bracket behind them. -/
def readList? (cs : List Char) : Option (List α × List Char) :=
  match skipBlanks cs with
  | [] => none
  | c :: rest => if c = close then some ([], rest) else readItems? one close cs.length cs

end List

/-- A member of an object. -/
def readMember? (value : List Char → Option (Json × List Char)) (cs : List Char) :
    Option ((String × Json) × List Char) := do
  let (name, rest) ← readQuoted? cs
  match skipBlanks rest with
  | ':' :: rest =>
    let (v, rest) ← value (skipBlanks rest)
    some ((name, v), rest)
  | _ => none

/-- A value in which fewer than `depth` brackets are open at once. -/
def readValue? : Nat → List Char → Option (Json × List Char)
  | 0, _ => none
  | depth + 1, cs =>
    match cs with
    | '"' :: _ => (readQuoted? cs).map fun p => (.string p.1, p.2)
    | '[' :: rest => (readList? (readValue? depth) ']' rest).map fun p => (.array p.1, p.2)
    | '{' :: rest =>
      (readList? (readMember? (readValue? depth)) '}' rest).map fun p => (.object p.1, p.2)
    | cs => readScalar? cs

/-- The value that a whole text spells. No more brackets can be open than the text is long. -/
def parse? (text : String) : Option Json :=
  match readValue? (text.toList.length + 1) (skipBlanks text.toList) with
  | some (v, rest) => if rest.all isBlank then some v else none
  | none => none

/-! ### Blanks and delimiters -/

theorem isDelimiter_of_isBlank {c : Char} (h : isBlank c = true) : isDelimiter c = true := by
  simp only [isDelimiter, h, Bool.true_or]

theorem skipBlanks_of_opens {cs : List Char} (h : Opens cs) : skipBlanks cs = cs := by
  obtain ⟨c, rest, rfl, hc⟩ := h
  have hblank : ¬ isBlank c = true := fun hblank => by
    rw [isDelimiter_of_isBlank hblank] at hc
    cases hc
  exact List.dropWhile_cons_of_neg hblank

theorem skipBlanks_append {before : List Char} (h : Blanks before) (cs : List Char) :
    skipBlanks (before ++ cs) = skipBlanks cs :=
  List.dropWhile_append_of_pos h

/-- Blanks end where something else begins. -/
theorem skipBlanks_blanks_append {before cs : List Char} (h : Blanks before) (hcs : Opens cs) :
    skipBlanks (before ++ cs) = cs := by
  rw [skipBlanks_append h, skipBlanks_of_opens hcs]

theorem exists_blanks_append_skipBlanks (cs : List Char) :
    ∃ before, Blanks before ∧ cs = before ++ skipBlanks cs :=
  ⟨cs.takeWhile isBlank, List.all_eq_true.mp List.all_takeWhile,
    List.takeWhile_append_dropWhile.symm⟩

theorem Ends.cons {c : Char} (h : isDelimiter c = true) (cs : List Char) : Ends (c :: cs) := by
  intro d hd
  cases hd
  exact h

theorem Ends.blanks_append {before cs : List Char} (h : Blanks before) (hcs : Ends cs) :
    Ends (before ++ cs) := by
  cases before with
  | nil => exact hcs
  | cons c before => exact .cons (isDelimiter_of_isBlank (h c List.mem_cons_self)) _

/-! ### Lists -/

section List

variable {α : Type} {one : List Char → Option (α × List Char)} {close : Char}

/-- A reader takes a text for a thing, whatever may stand behind it. -/
def Takes (one : List Char → Option (α × List Char)) (v : α) (text : List Char) : Prop :=
  ∀ rest, Ends rest → one (text ++ rest) = some (v, rest)

/-- An item is read with the comma or the bracket behind it. -/
theorem readItems?_succ {before text after : List Char} {v : α} {c : Char} (hbefore : Blanks before)
    (hafter : Blanks after) (hopens : Opens text) (htakes : Takes one v text)
    (hc : isDelimiter c = true) (hblank : isBlank c = false) (count : Nat) (rest : List Char) :
    readItems? one close (count + 1) (before ++ text ++ after ++ c :: rest) =
      if c = ',' then (readItems? one close count rest).map fun p => (v :: p.1, p.2)
      else if c = close then some ([v], rest) else none := by
  have hitem : one (skipBlanks (before ++ text ++ after ++ c :: rest)) =
      some (v, after ++ c :: rest) := by
    rw [List.append_assoc, List.append_assoc, skipBlanks_blanks_append hbefore (hopens.append _)]
    exact htakes _ (.blanks_append hafter (.cons hc rest))
  have hnext : skipBlanks (after ++ c :: rest) = c :: rest := by
    rw [skipBlanks_append hafter]
    exact List.dropWhile_cons_of_neg (by rw [hblank]; decide)
  simp only [readItems?, hitem, Option.bind_eq_bind, Option.bind_some, hnext]

/-- Items with commas between them are read up to the bracket behind them. -/
theorem readItems?_of_listed (hclose : close = ']' ∨ close = '}') (rest : List Char)
    {items : List (α × List Char)} {body : List Char} (hne : items ≠ [])
    (hlisted : Listed (items.map Prod.snd) body) (hopens : ∀ item ∈ items, Opens item.2)
    (htakes : ∀ item ∈ items, Takes one item.1 item.2) {count : Nat}
    (hcount : items.length ≤ count) :
    readItems? one close count (body ++ close :: rest) = some (items.map Prod.fst, rest) := by
  have hdelimiter : isDelimiter close = true := by rcases hclose with rfl | rfl <;> decide
  have hblank : isBlank close = false := by rcases hclose with rfl | rfl <;> decide
  have hcomma : close ≠ ',' := by rcases hclose with rfl | rfl <;> decide
  -- Whether an item is the last one decides whether a comma or the bracket stands behind it.
  induction items generalizing body count with
  | nil => exact absurd rfl hne
  | cons item items ih =>
    obtain ⟨count, rfl⟩ := Nat.exists_eq_add_one_of_ne_zero (Nat.ne_zero_of_lt hcount)
    have hopen := hopens item List.mem_cons_self
    have htake := htakes item List.mem_cons_self
    cases items with
    | nil =>
      cases hlisted with
      | one hbefore hafter =>
        rw [readItems?_succ hbefore hafter hopen htake hdelimiter hblank, if_neg hcomma, if_pos rfl]
        rfl
    | cons next items =>
      cases hlisted with
      | more hbefore hafter hmore =>
        have hnext := ih (List.cons_ne_nil next items) hmore
          (fun i hi => hopens i (List.mem_cons_of_mem _ hi))
          (fun i hi => htakes i (List.mem_cons_of_mem _ hi)) (Nat.le_of_succ_le_succ hcount)
        rw [List.append_assoc _ _ (close :: rest), List.cons_append,
          readItems?_succ hbefore hafter hopen htake (by decide) (by decide), if_pos rfl, hnext]
        rfl

/-- Between the items of a list stand as many commas as there are items, less one. -/
theorem Listed.length_le {texts : List (List Char)} {body : List Char} (h : Listed texts body) :
    texts.length ≤ body.length + 1 := by
  induction h with
  | none => exact Nat.zero_le _
  | one => exact Nat.succ_le_succ (Nat.zero_le _)
  | more _ _ _ ih =>
    simp only [List.length_cons, List.length_append] at ih ⊢
    omega

theorem Listed.length_le_of_mem {texts : List (List Char)} {body : List Char}
    (h : Listed texts body) {text : List Char} (htext : text ∈ texts) :
    text.length ≤ body.length := by
  induction h with
  | none => cases htext
  | one =>
    obtain rfl := List.mem_singleton.mp htext
    simp only [List.length_append]
    omega
  | more _ _ _ ih =>
    simp only [List.length_append, List.length_cons]
    rcases List.mem_cons.mp htext with rfl | hmem
    · omega
    · have := ih hmem
      omega

/-- Behind the blanks at its front, a list that is not empty begins like its first item. -/
theorem Listed.opens_skipBlanks {text body : List Char} {texts : List (List Char)}
    (h : Listed (text :: texts) body) (hopens : Opens text) (rest : List Char) :
    Opens (skipBlanks (body ++ rest)) := by
  cases h with
  | one hbefore hafter =>
    rw [List.append_assoc, List.append_assoc, skipBlanks_blanks_append hbefore (hopens.append _)]
    exact hopens.append _
  | more hbefore hafter hmore =>
    rw [List.append_assoc, List.append_assoc, List.append_assoc,
      skipBlanks_blanks_append hbefore (hopens.append _)]
    exact hopens.append _

/-- A list is read up to the bracket behind it. -/
theorem readList?_of_listed (hclose : close = ']' ∨ close = '}') (rest : List Char)
    {items : List (α × List Char)} {body : List Char} (hlisted : Listed (items.map Prod.snd) body)
    (hopens : ∀ item ∈ items, Opens item.2) (htakes : ∀ item ∈ items, Takes one item.1 item.2) :
    readList? one close (body ++ close :: rest) = some (items.map Prod.fst, rest) := by
  have hclosing : isBlank close = false := by rcases hclose with rfl | rfl <;> decide
  by_cases hne : items = []
  · -- Between the brackets are blanks alone, and the reader comes upon the bracket at once.
    subst hne
    cases hlisted with
    | none hblanks =>
      have hskip : skipBlanks (body ++ close :: rest) = close :: rest := by
        rw [skipBlanks_append hblanks]
        exact List.dropWhile_cons_of_neg (by rw [hclosing]; decide)
      simp only [readList?, hskip, if_true, List.map_nil]
  · obtain ⟨item, tail, rfl⟩ := List.exists_cons_of_ne_nil hne
    obtain ⟨c, behind, hskip, hsolid⟩ :=
      hlisted.opens_skipBlanks (hopens item List.mem_cons_self) (close :: rest)
    -- An item begins with no bracket that closes a list.
    have hc : c ≠ close := by
      rintro rfl
      rcases hclose with rfl | rfl <;> exact absurd hsolid (by decide)
    -- The length of the text is count enough, since every item but the last has a comma.
    have hcount : (item :: tail).length ≤ (body ++ close :: rest).length := by
      have hlength := hlisted.length_le
      simp only [List.length_map, List.length_append, List.length_cons] at hlength ⊢
      omega
    simp only [readList?, hskip, if_neg hc]
    exact readItems?_of_listed hclose rest hne hlisted hopens htakes hcount

variable {P : α → List Char → Prop}

/-- What has been read as items are their texts with commas between them. -/
theorem exists_of_readItems?
    (hone : ∀ cs v rest, one cs = some (v, rest) → ∃ text, P v text ∧ cs = text ++ rest)
    {count : Nat} {cs rest : List Char} {vs : List α}
    (h : readItems? one close count cs = some (vs, rest)) :
    ∃ (items : List (α × List Char)) (body : List Char), items ≠ [] ∧ items.map Prod.fst = vs ∧
      (∀ item ∈ items, P item.1 item.2) ∧
      Listed (items.map Prod.snd) body ∧ cs = body ++ close :: rest := by
  induction count generalizing cs vs with
  | zero => cases h
  | succ count ih =>
    -- What the reader has skipped before and behind the item are the blanks of the list.
    obtain ⟨before, hbefore, hcs⟩ := exists_blanks_append_skipBlanks cs
    simp only [readItems?, Option.bind_eq_bind, Option.bind_eq_some_iff] at h
    obtain ⟨⟨v, behind⟩, hitem, h⟩ := h
    obtain ⟨text, hv, htext⟩ := hone _ _ _ hitem
    obtain ⟨after, hafter, hbehind⟩ := exists_blanks_append_skipBlanks behind
    split at h
    case h_1 => cases h
    case h_2 c more hmore =>
      have hsplit : cs = before ++ text ++ after ++ c :: more := by
        rw [hcs, htext, hbehind, hmore, List.append_assoc, List.append_assoc]
      split at h
      case isTrue hcomma =>
        obtain ⟨⟨vs', rest'⟩, hitems, h⟩ := Option.map_eq_some_iff.mp h
        cases h
        obtain ⟨items, body, hne, rfl, hall, hlisted, rfl⟩ := ih hitems
        obtain ⟨next, items, rfl⟩ := List.exists_cons_of_ne_nil hne
        refine ⟨(v, text) :: next :: items, _, List.cons_ne_nil _ _, rfl,
          List.forall_mem_cons.mpr ⟨hv, hall⟩, .more hbefore hafter hlisted, ?_⟩
        rw [hsplit, hcomma]
        simp only [List.append_assoc, List.cons_append]
      case isFalse =>
        split at h
        case isFalse => cases h
        case isTrue hclosing =>
          cases h
          exact ⟨[(v, text)], _, List.cons_ne_nil _ _, rfl,
            List.forall_mem_singleton.mpr hv, .one hbefore hafter, hclosing ▸ hsplit⟩

/-- What has been read as a list are the texts of its items with commas between them. -/
theorem exists_of_readList?
    (hone : ∀ cs v rest, one cs = some (v, rest) → ∃ text, P v text ∧ cs = text ++ rest)
    {cs rest : List Char} {vs : List α} (h : readList? one close cs = some (vs, rest)) :
    ∃ (items : List (α × List Char)) (body : List Char), items.map Prod.fst = vs ∧
      (∀ item ∈ items, P item.1 item.2) ∧
      Listed (items.map Prod.snd) body ∧ cs = body ++ close :: rest := by
  obtain ⟨blanks, hblanks, hcs⟩ := exists_blanks_append_skipBlanks cs
  unfold readList? at h
  split at h
  case h_1 => cases h
  case h_2 c behind hskip =>
    split at h
    case isTrue hclosing =>
      cases h
      exact ⟨[], blanks, rfl, fun _ h => (List.not_mem_nil h).elim, .none hblanks, by
        rw [hcs, hskip, hclosing]⟩
    case isFalse =>
      obtain ⟨items, body, -, hitems⟩ := exists_of_readItems? hone h
      exact ⟨items, body, hitems⟩

end List

/-! ### Scalars, strings and members -/

/-- A number begins neither like a string nor like a list. -/
theorem opening_of_isNumber {c : Char} {cs : List Char} (h : isNumber (c :: cs) = true) :
    c ≠ '"' ∧ c ≠ '[' ∧ c ≠ '{' := by
  refine ⟨?_, ?_, ?_⟩ <;> rintro rfl <;>
    exact absurd h (by simp [isNumber, isMagnitude, isWhole])

/-- A word is read up to what may stand behind it. -/
theorem takes_readScalar? {word : List Char} {v : Json} (hword : Solid word)
    (hv : scalar? word = some v) : Takes readScalar? v word := by
  intro rest hrest
  -- The run of characters that are no delimiters is the word: it holds none, and one stands behind.
  have hpos : ∀ c ∈ word, (!isDelimiter c) = true := fun c hc => by rw [hword c hc]; rfl
  have hstop : rest.takeWhile (!isDelimiter ·) = [] ∧ rest.dropWhile (!isDelimiter ·) = rest := by
    cases rest with
    | nil => exact ⟨rfl, rfl⟩
    | cons c rest =>
      have hc : ¬ (!isDelimiter c) = true := by rw [hrest c rfl]; decide
      exact ⟨List.takeWhile_cons_of_neg hc, List.dropWhile_cons_of_neg hc⟩
  rw [readScalar?, List.takeWhile_append_of_pos hpos, List.dropWhile_append_of_pos hpos, hstop.1,
    hstop.2, List.append_nil, hv]
  rfl

/-- What a word stands for is what it spells. -/
theorem spells_of_scalar? {word : List Char} {v : Json} (h : scalar? word = some v) :
    Spells v word := by
  unfold scalar? at h
  split at h
  case isTrue hword =>
    cases h
    exact hword ▸ .null
  split at h
  case isTrue hword =>
    cases h
    exact hword ▸ .true
  split at h
  case isTrue hword =>
    cases h
    exact hword ▸ .false
  split at h
  case isTrue hnumber =>
    cases h
    have hspells : Spells (.number (.ofList word)) (String.ofList word).toList :=
      .number (by rwa [String.toList_ofList])
    rwa [String.toList_ofList] at hspells
  case isFalse => cases h

theorem readQuoted?_eq_some_iff {cs rest : List Char} {s : String} :
    readQuoted? cs = some (s, rest) ↔ ∃ text, SpellsString s text ∧ cs = text ++ rest := by
  constructor
  · intro h
    unfold readQuoted? at h
    split at h
    case h_1 inside =>
      split at h
      case h_1 hread =>
        cases h
        obtain ⟨texts, htexts, rfl⟩ := readString_eq_ok_iff.mp hread
        exact ⟨_, ⟨texts, htexts, rfl⟩, by simp⟩
      case h_2 => cases h
    case h_2 => cases h
  · rintro ⟨text, ⟨texts, htexts, rfl⟩, rfl⟩
    have hread : readString (texts ++ '"' :: rest) = .ok (s, rest) :=
      readString_eq_ok_iff.mpr ⟨texts, htexts, rfl⟩
    simp only [List.cons_append, List.append_assoc, List.nil_append, readQuoted?, hread]

/-- A member is read if its value is. -/
theorem takes_readMember? {value : List Char → Option (Json × List Char)} {m : Member}
    (hname : SpellsString m.name m.nameText) (hcolon : IsColon m.colon) (hopens : Opens m.valueText)
    (hvalue : Takes value m.value m.valueText) : Takes (readMember? value) m.toPair m.text := by
  intro rest hrest
  obtain ⟨before, after, hbefore, hafter, hcolon⟩ := hcolon
  have hsplit : m.text ++ rest =
      m.nameText ++ (before ++ ':' :: (after ++ (m.valueText ++ rest))) := by
    simp only [Member.text, hcolon, List.append_assoc, List.cons_append]
  have hquoted : readQuoted? (m.text ++ rest) =
      some (m.name, before ++ ':' :: (after ++ (m.valueText ++ rest))) :=
    readQuoted?_eq_some_iff.mpr ⟨m.nameText, hname, hsplit⟩
  have hskip : skipBlanks (before ++ ':' :: (after ++ (m.valueText ++ rest))) =
      ':' :: (after ++ (m.valueText ++ rest)) :=
    skipBlanks_blanks_append hbefore ⟨':', _, rfl, by decide⟩
  have hskip' : skipBlanks (after ++ (m.valueText ++ rest)) = m.valueText ++ rest :=
    skipBlanks_blanks_append hafter (hopens.append rest)
  simp only [readMember?, hquoted, Option.bind_eq_bind, Option.bind_some, hskip, hskip',
    hvalue rest hrest]
  rfl

/-- What has been read as a member are a name, a colon and a value. -/
theorem exists_of_readMember? {value : List Char → Option (Json × List Char)}
    {P : Json → List Char → Prop}
    (hvalue : ∀ cs v rest, value cs = some (v, rest) → ∃ text, P v text ∧ cs = text ++ rest)
    {cs rest : List Char} {pair : String × Json} (h : readMember? value cs = some (pair, rest)) :
    ∃ text, (∃ m : Member, (m.toPair, m.text) = (pair, text) ∧ SpellsString m.name m.nameText ∧
      IsColon m.colon ∧ P m.value m.valueText) ∧ cs = text ++ rest := by
  simp only [readMember?, Option.bind_eq_bind, Option.bind_eq_some_iff] at h
  obtain ⟨⟨name, behind⟩, hname, h⟩ := h
  obtain ⟨nameText, hspells, rfl⟩ := readQuoted?_eq_some_iff.mp hname
  obtain ⟨before, hbefore, hbehind⟩ := exists_blanks_append_skipBlanks behind
  split at h
  case h_1 more hmore =>
    obtain ⟨after, hafter, hafterward⟩ := exists_blanks_append_skipBlanks more
    obtain ⟨⟨v, rest'⟩, hv, h⟩ := Option.bind_eq_some_iff.mp h
    cases h
    obtain ⟨valueText, hP, hvalueText⟩ := hvalue _ _ _ hv
    refine ⟨_, ⟨⟨name, nameText, before ++ ':' :: after, v, valueText⟩, rfl, hspells,
      ⟨before, after, hbefore, hafter, rfl⟩, hP⟩, ?_⟩
    rw [hbehind, hmore, hafterward, hvalueText]
    simp only [Member.text, List.append_assoc, List.cons_append]
  case h_2 => cases h

/-! ### Values and documents -/

theorem readValue?_of_ne {c : Char} {cs : List Char} (h : c ≠ '"' ∧ c ≠ '[' ∧ c ≠ '{')
    (depth : Nat) : readValue? (depth + 1) (c :: cs) = readScalar? (c :: cs) := by
  unfold readValue?
  split
  case h_1 heq => exact absurd (List.cons.inj heq).1 h.1
  case h_2 heq => exact absurd (List.cons.inj heq).1 h.2.1
  case h_3 heq => exact absurd (List.cons.inj heq).1 h.2.2
  case h_4 => rfl

theorem readValue?_array (depth : Nat) (cs : List Char) : readValue? (depth + 1) ('[' :: cs) =
    (readList? (readValue? depth) ']' cs).map fun p => (.array p.1, p.2) :=
  rfl

theorem readValue?_object (depth : Nat) (cs : List Char) : readValue? (depth + 1) ('{' :: cs) =
    (readList? (readMember? (readValue? depth)) '}' cs).map fun p => (.object p.1, p.2) :=
  rfl

theorem takes_readValue?_of_scalar? {word : List Char} {c : Char} {cs : List Char} {v : Json}
    (hcons : word = c :: cs) (hc : c ≠ '"' ∧ c ≠ '[' ∧ c ≠ '{') (hword : Solid word)
    (hv : scalar? word = some v) (depth : Nat) : Takes (readValue? (depth + 1)) v word := by
  intro rest hrest
  have htake := takes_readScalar? hword hv rest hrest
  subst hcons
  exact (readValue?_of_ne hc depth).trans htake

/-- A number stands for itself. -/
theorem scalar?_of_isNumber {literal : String} (h : isNumber literal.toList = true) :
    scalar? literal.toList = some (.number literal) := by
  -- None of the three words is a number.
  have hword {word : List Char} (hword : isNumber word = false) : literal.toList ≠ word := by
    rintro rfl
    rw [h] at hword
    cases hword
  rw [scalar?, if_neg (hword (by decide)), if_neg (hword (by decide)), if_neg (hword (by decide)),
    if_pos h, String.ofList_toList]

/-- What spells a value is read as this value. -/
theorem Spells.takes {v : Json} {text : List Char} (h : Spells v text) (depth : Nat)
    (hdepth : text.length ≤ depth + 1) : Takes (readValue? (depth + 1)) v text := by
  -- Inside brackets the texts are shorter by two, so what is left of the depth is enough for them.
  induction h generalizing depth with
  | null => exact takes_readValue?_of_scalar? rfl (by decide) (by decide) rfl depth
  | true => exact takes_readValue?_of_scalar? rfl (by decide) (by decide) rfl depth
  | false => exact takes_readValue?_of_scalar? rfl (by decide) (by decide) rfl depth
  | @number literal h =>
    obtain ⟨c, cs, hcons⟩ := List.exists_cons_of_ne_nil (ne_nil_of_isNumber h)
    exact takes_readValue?_of_scalar? hcons (opening_of_isNumber (hcons ▸ h))
      (solid_of_isNumber h) (scalar?_of_isNumber h) depth
  | @string s text h =>
    intro rest _
    have hquoted : readQuoted? (text ++ rest) = some (s, rest) :=
      readQuoted?_eq_some_iff.mpr ⟨text, h, rfl⟩
    obtain ⟨inside, -, rfl⟩ := h
    rw [List.cons_append] at hquoted ⊢
    simp only [readValue?, hquoted, Option.map_some]
  | @array items body hitems hlisted ih =>
    simp only [List.length_cons, List.length_append, List.length_nil] at hdepth
    obtain ⟨depth, rfl⟩ : ∃ d, depth = d + 1 := Nat.exists_eq_add_one_of_ne_zero (by omega)
    intro rest _
    have hlist : readList? (readValue? (depth + 1)) ']' (body ++ ']' :: rest) =
        some (items.map Prod.fst, rest) := by
      refine readList?_of_listed (.inl rfl) rest hlisted (fun i hi => (hitems i hi).opens) ?_
      intro item hitem
      have hlength := hlisted.length_le_of_mem (List.mem_map_of_mem hitem)
      exact ih item hitem depth (by omega)
    rw [List.cons_append, List.append_assoc, readValue?_array]
    simp only [List.cons_append, List.nil_append, hlist, Option.map_some]
  | @object members body hnames hcolons hvalues hlisted ih =>
    simp only [List.length_cons, List.length_append, List.length_nil] at hdepth
    obtain ⟨depth, rfl⟩ : ∃ d, depth = d + 1 := Nat.exists_eq_add_one_of_ne_zero (by omega)
    intro rest _
    have hlist : readList? (readMember? (readValue? (depth + 1))) '}' (body ++ '}' :: rest) =
        some ((members.map fun m => (m.toPair, m.text)).map Prod.fst, rest) := by
      refine readList?_of_listed (.inr rfl) rest (by rwa [List.map_map]) ?_ ?_ <;>
        intro item hitem <;> obtain ⟨m, hm, rfl⟩ := List.mem_map.mp hitem
      · exact ((hnames m hm).opens.append _).append _
      · have hlength := hlisted.length_le_of_mem (List.mem_map_of_mem hm)
        simp only [Member.text, List.length_append] at hlength
        exact takes_readMember? (hnames m hm) (hcolons m hm) (hvalues m hm).opens
          (ih m hm depth (by omega))
    rw [List.map_map] at hlist
    rw [List.cons_append, List.append_assoc, readValue?_object]
    simp only [List.cons_append, List.nil_append, hlist, Option.map_some]
    rfl

/-- Things that each are an image under a function are the image of a list. -/
theorem exists_map_eq_of_forall {α β : Type} {f : α → β} {P : α → Prop} {bs : List β}
    (h : ∀ b ∈ bs, ∃ a, f a = b ∧ P a) : ∃ as : List α, as.map f = bs ∧ ∀ a ∈ as, P a := by
  induction bs with
  | nil => exact ⟨[], rfl, fun _ h => (List.not_mem_nil h).elim⟩
  | cons b bs ih =>
    obtain ⟨⟨a, rfl, ha⟩, hbs⟩ := List.forall_mem_cons.mp h
    obtain ⟨as, rfl, has⟩ := ih hbs
    exact ⟨a :: as, rfl, List.forall_mem_cons.mpr ⟨ha, has⟩⟩

/-- What has been read as a value spells it. -/
theorem exists_of_readValue? {depth : Nat} {cs rest : List Char} {v : Json}
    (h : readValue? depth cs = some (v, rest)) : ∃ text, Spells v text ∧ cs = text ++ rest := by
  induction depth generalizing cs rest v with
  | zero => cases h
  | succ depth ih =>
    unfold readValue? at h
    split at h
    case h_1 =>
      obtain ⟨⟨s, rest'⟩, hs, h⟩ := Option.map_eq_some_iff.mp h
      cases h
      obtain ⟨text, htext, hsplit⟩ := readQuoted?_eq_some_iff.mp hs
      exact ⟨text, .string htext, hsplit⟩
    case h_2 behind =>
      obtain ⟨⟨vs, rest'⟩, hitems, h⟩ := Option.map_eq_some_iff.mp h
      cases h
      obtain ⟨items, body, rfl, hall, hlisted, rfl⟩ :=
        exists_of_readList? (fun _ _ _ => ih) hitems
      exact ⟨_, .array hall hlisted, by simp⟩
    case h_3 behind =>
      obtain ⟨⟨vs, rest'⟩, hitems, h⟩ := Option.map_eq_some_iff.mp h
      cases h
      obtain ⟨items, body, rfl, hall, hlisted, rfl⟩ :=
        exists_of_readList? (fun _ _ _ h => exists_of_readMember? (fun _ _ _ => ih) h) hitems
      obtain ⟨members, rfl, hmembers⟩ := exists_map_eq_of_forall hall
      rw [List.map_map] at hlisted ⊢
      exact ⟨_, .object (fun m hm => (hmembers m hm).1) (fun m hm => (hmembers m hm).2.1)
        (fun m hm => (hmembers m hm).2.2) hlisted, by simp⟩
    case h_4 =>
      obtain ⟨v', hv, h⟩ := Option.map_eq_some_iff.mp h
      cases h
      exact ⟨_, spells_of_scalar? hv, List.takeWhile_append_dropWhile.symm⟩

/-- The documents are read, and nothing else is. -/
theorem parse?_eq_some_iff {text : String} {v : Json} :
    parse? text = some v ↔ IsDocument v text.toList := by
  constructor
  · intro h
    unfold parse? at h
    split at h
    case h_1 v' rest hv =>
      obtain ⟨before, hbefore, hsplit⟩ := exists_blanks_append_skipBlanks text.toList
      obtain ⟨inside, hspells, hinside⟩ := exists_of_readValue? hv
      split at h
      case isTrue hblanks =>
        cases h
        exact ⟨before, inside, rest, hbefore, List.all_eq_true.mp hblanks, hspells, by
          rw [hsplit, hinside, List.append_assoc]⟩
      case isFalse => cases h
    case h_2 => cases h
  · rintro ⟨before, inside, after, hbefore, hafter, hspells, htext⟩
    have hlength : inside.length ≤ text.toList.length + 1 := by
      rw [htext]
      simp only [List.length_append]
      omega
    have hends : Ends after := by
      intro c hc
      exact isDelimiter_of_isBlank (hafter c (List.mem_of_mem_head? hc))
    have hskip : skipBlanks text.toList = inside ++ after := by
      rw [htext, List.append_assoc, skipBlanks_blanks_append hbefore (hspells.opens.append after)]
    have hall : after.all isBlank = true := List.all_eq_true.mpr hafter
    simp only [parse?, hskip, hspells.takes _ hlength after hends, hall, if_true]

end UsageScan.Json
