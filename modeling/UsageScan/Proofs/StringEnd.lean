import UsageScan.Proofs.Blanked
import Mathlib.Algebra.Group.Nat.Even
import Mathlib.Data.List.DropRight
/-!
# Where strings end

A string ends with the first quote of its kind that is not escaped. The reader takes a backslash
together with the character behind it, so a quote is escaped exactly if an odd number of backslashes
stands in front of it. Nothing else in a string matters.

## Main definitions

* `Text.escapes` — the backslashes that a text ends with
* `ClosesAt` — a quote that closes a string
* `StringEnd`, `StringEnds` — where a string token ends, and where all of a scan do

## Main results

* `Lexeme.exists_shortest_closesAt`, `Lexeme.not_closesAt` — the reader stops behind the first quote
  that closes the string, and misses none
* `Lexeme.stringLength_of_shortest`, `Lexeme.stringLength_of_not_closesAt` — what the reader counts
* `Lexeme.stringLength_map` — characters that are neither quotes nor backslashes do not matter
* `string_ends_scan` — where the strings of any scan end
-/

set_option autoImplicit false

namespace UsageScan

open Text

namespace Text

/-- The backslashes that a text ends with. -/
def escapes (cs : List Char) : List Char :=
  cs.rtakeWhile (· = '\\')

end Text

/-- Behind the opening quote of a string, the quote that comes after `body` closes it: an even
number of backslashes stands in front of that one. -/
structure ClosesAt (quote : Char) (behind body : List Char) : Prop where
  begins : body ++ [quote] <+: behind
  even : Even (escapes body).length

/-- Where a string token ends whose opening quote stands between `before` and `behind`. -/
structure StringEnd (source : List Char) (t : Token) (before : List Char) (quote : Char)
    (behind : List Char) : Prop where
  source_eq : source = before ++ quote :: behind
  isQuote : Lexeme.isQuote quote = true
  start : t.span.start = size before
  closed : ∀ body, Shortest (ClosesAt quote behind) body →
    t.span.stop = size (before ++ quote :: (body ++ [quote])) ∧ t.flags.unterminated = false
  unclosed : (∀ body, ¬ ClosesAt quote behind body) →
    t.span.stop = size source ∧ t.flags.unterminated = true
  /-- It ends where it would end with anything else in the place of what is neither a quote of its
  kind nor a backslash. -/
  others : ∀ f : Char → Char, (∀ c, f c = quote ↔ c = quote) → (∀ c, f c = '\\' ↔ c = '\\') →
    let (length, closed) := Lexeme.stringLength quote 0 (behind.map f)
    t.span.stop = size (before ++ quote :: behind.take length) ∧ t.flags.unterminated = !closed

/-- Each string token of a scan ends with the first quote that closes it, or with the source. -/
def StringEnds (source : String) (options : Options) : Prop :=
  ∀ t ∈ (Scanner.ofSource source options).tokens, t.kind = .string →
    ∃ before quote behind, StringEnd source.toList t before quote behind

/-! ### Backslashes in front of a quote -/

namespace Text

variable {c : Char} (cs : List Char)

theorem escapes_cons_of_ne (hc : c ≠ '\\') : escapes (c :: cs) = escapes cs := by
  rw [escapes, escapes, List.rtakeWhile, List.rtakeWhile, List.reverse_cons, List.takeWhile_append]
  -- Either the backslashes at the end go on up to `c`, or they stop before.
  split
  · next hall =>
    rw [List.takeWhile_cons, if_neg (by simp [hc]), List.append_nil,
      (List.takeWhile_prefix _).eq_of_length hall]
  · rfl

/-- A backslash and the character that it takes with it are two more backslashes at the end, or
none. -/
theorem even_escapes_cons_cons (c : Char) :
    Even (escapes ('\\' :: c :: cs)).length ↔ Even (escapes cs).length := by
  have hpair : Even (([c] ++ ['\\']).takeWhile fun d => decide (d = '\\')).length := by
    by_cases hc : c = '\\'
    · subst hc
      decide
    · simp [hc]
  simp only [escapes, List.rtakeWhile, List.reverse_cons, List.length_reverse]
  rw [List.append_assoc, List.takeWhile_append]
  split
  · next hall =>
    rw [List.length_append, hall, Nat.even_add, iff_true_right hpair]
  · rfl

end Text

/-! ### Closing quotes, by the steps of the reader -/

namespace ClosesAt

variable {quote c : Char} {cs body : List Char}

theorem prefix_body (h : ClosesAt quote cs body) : body <+: cs :=
  (List.prefix_append body [quote]).trans h.begins

theorem not_nil : ¬ ClosesAt quote [] body := fun h => by simpa using h.begins

/-- A backslash at the end of the text has no character to take with it. -/
theorem not_backslash (hquote : quote ≠ '\\') : ¬ ClosesAt quote ['\\'] body := by
  intro h
  cases body with
  | nil => exact hquote (List.cons_prefix_cons.mp h.begins).1
  | cons d ds => simpa using (List.cons_prefix_cons.mp h.begins).2

/-- The next quote closes the string at once. -/
theorem nil : ClosesAt quote (quote :: cs) [] :=
  ⟨List.prefix_append [quote] cs, Even.zero⟩

theorem cons_iff (hescape : c ≠ '\\') (hquote : c ≠ quote) :
    ClosesAt quote (c :: cs) body ↔ ∃ more, body = c :: more ∧ ClosesAt quote cs more := by
  constructor
  · intro h
    cases body with
    | nil => exact absurd (List.cons_prefix_cons.mp h.begins).1.symm hquote
    | cons d more =>
      obtain ⟨rfl, hbegins⟩ := List.cons_prefix_cons.mp h.begins
      have heven := h.even
      rw [escapes_cons_of_ne more hescape] at heven
      exact ⟨more, rfl, hbegins, heven⟩
  · rintro ⟨more, rfl, h⟩
    exact ⟨List.cons_prefix_cons.mpr ⟨rfl, h.begins⟩, by
      rw [escapes_cons_of_ne more hescape]
      exact h.even⟩

/-- A backslash and the next character close nothing, even if that one is a quote. -/
theorem escape_iff (hquote : quote ≠ '\\') : ClosesAt quote ('\\' :: c :: cs) body ↔
    ∃ more, body = '\\' :: c :: more ∧ ClosesAt quote cs more := by
  constructor
  · intro h
    match body with
    | [] => exact absurd (List.cons_prefix_cons.mp h.begins).1 hquote
    | [d] =>
      -- The quote behind a single backslash is escaped.
      obtain ⟨rfl, -⟩ := List.cons_prefix_cons.mp h.begins
      exact absurd h.even (by decide)
    | d :: e :: more =>
      obtain ⟨rfl, htwo⟩ := List.cons_prefix_cons.mp h.begins
      obtain ⟨rfl, hbegins⟩ := List.cons_prefix_cons.mp htwo
      exact ⟨more, rfl, hbegins, (even_escapes_cons_cons more e).mp h.even⟩
  · rintro ⟨more, rfl, h⟩
    exact ⟨List.cons_prefix_cons.mpr ⟨rfl, List.cons_prefix_cons.mpr ⟨rfl, h.begins⟩⟩,
      (even_escapes_cons_cons more c).mpr h.even⟩

end ClosesAt

namespace Lexeme

variable {quote : Char} {read : Nat} {cs : List Char}

theorem ne_backslash_of_isQuote (h : isQuote quote = true) : quote ≠ '\\' := by
  rintro rfl
  contradiction

/-- The reader stops behind the first quote that closes the string. -/
theorem exists_shortest_closesAt (hquote : quote ≠ '\\')
    (h : (stringLength quote read cs).2 = true) : ∃ body, Shortest (ClosesAt quote cs) body ∧
      (stringLength quote read cs).1 = read + (body.length + 1) := by
  fun_induction stringLength quote read cs with
  | case1 => contradiction
  | case2 => contradiction
  -- Any body that is closed begins with what the reader has taken, so a shorter one would leave a
  -- shorter one behind that.
  | case3 read c cs ih =>
    obtain ⟨body, hfirst, hlength⟩ := ih h
    refine ⟨'\\' :: c :: body,
      ⟨(ClosesAt.escape_iff hquote).mpr ⟨body, rfl, hfirst.holds⟩, ?_⟩, ?_⟩
    · intro other hother
      obtain ⟨more, rfl, hmore⟩ := (ClosesAt.escape_iff hquote).mp hother
      exact Nat.add_le_add_right (hfirst.least more hmore) 2
    · rw [hlength, List.length_cons, List.length_cons]
      omega
  | case4 read cs => exact ⟨[], ⟨.nil, fun _ _ => Nat.zero_le _⟩, rfl⟩
  | case5 read c cs hescape hne ih =>
    obtain ⟨body, hfirst, hlength⟩ := ih h
    refine ⟨c :: body, ⟨(ClosesAt.cons_iff hescape hne).mpr ⟨body, rfl, hfirst.holds⟩, ?_⟩, ?_⟩
    · intro other hother
      obtain ⟨more, rfl, hmore⟩ := (ClosesAt.cons_iff hescape hne).mp hother
      exact Nat.add_le_add_right (hfirst.least more hmore) 1
    · rw [hlength, List.length_cons]
      omega

/-- If the reader finds no end, no quote closes the string, and all of the text is taken. -/
theorem not_closesAt (hquote : quote ≠ '\\') (h : (stringLength quote read cs).2 = false) :
    (∀ body, ¬ ClosesAt quote cs body) ∧ (stringLength quote read cs).1 = read + cs.length := by
  fun_induction stringLength quote read cs with
  | case1 => exact ⟨fun _ => ClosesAt.not_nil, rfl⟩
  | case2 => exact ⟨fun _ => ClosesAt.not_backslash hquote, rfl⟩
  | case3 read c cs ih =>
    obtain ⟨hnone, hlength⟩ := ih h
    refine ⟨fun body hbody => ?_, by rw [hlength, List.length_cons, List.length_cons]; omega⟩
    obtain ⟨more, -, hmore⟩ := (ClosesAt.escape_iff hquote).mp hbody
    exact hnone more hmore
  | case4 => contradiction
  | case5 read c cs hescape hne ih =>
    obtain ⟨hnone, hlength⟩ := ih h
    refine ⟨fun body hbody => ?_, by rw [hlength, List.length_cons]; omega⟩
    obtain ⟨more, -, hmore⟩ := (ClosesAt.cons_iff hescape hne).mp hbody
    exact hnone more hmore

/-- There is only one shortest body, and the reader stops behind it. -/
theorem stringLength_of_shortest (hquote : quote ≠ '\\') {body : List Char}
    (hbody : Shortest (ClosesAt quote cs) body) :
    stringLength quote read cs = (read + (body.length + 1), true) := by
  cases hclosed : (stringLength quote read cs).2 with
  | true =>
    obtain ⟨first, hfirst, hlength⟩ := exists_shortest_closesAt hquote hclosed
    obtain rfl := hfirst.unique (fun _ => ClosesAt.prefix_body) hbody
    exact Prod.ext hlength hclosed
  | false => exact absurd hbody.holds ((not_closesAt hquote hclosed).1 body)

theorem stringLength_of_not_closesAt (hquote : quote ≠ '\\')
    (hnone : ∀ body, ¬ ClosesAt quote cs body) :
    stringLength quote read cs = (read + cs.length, false) := by
  cases hclosed : (stringLength quote read cs).2 with
  | true =>
    obtain ⟨first, hfirst, -⟩ := exists_shortest_closesAt hquote hclosed
    exact absurd hfirst.holds (hnone first)
  | false => exact Prod.ext (not_closesAt hquote hclosed).2 hclosed

/-- Characters that are neither quotes of the kind nor backslashes do not matter. -/
theorem stringLength_map {f : Char → Char} (hquote : ∀ c, f c = quote ↔ c = quote)
    (hescape : ∀ c, f c = '\\' ↔ c = '\\') (read : Nat) (cs : List Char) :
    stringLength quote read (cs.map f) = stringLength quote read cs := by
  fun_induction stringLength quote read cs with
  | case1 => rfl
  | case2 => simp [stringLength, (hescape _).mpr rfl]
  | case3 read c cs ih => simp [stringLength, (hescape _).mpr rfl, ih]
  | case4 read cs hne =>
    rw [List.map_cons, stringLength.eq_def]
    simp [hescape, hquote, hne]
  | case5 read c cs hne hne' ih =>
    rw [List.map_cons, stringLength.eq_def]
    simp [hescape, hquote, hne, hne', ih]

end Lexeme

namespace Form

/-- Only a quote begins a string. -/
theorem eq_string_of_kind {c : Char} {cs : List Char} (h : (front c cs).1.kind = .string) :
    Lexeme.isQuote c = true ∧ front c cs = string c cs := by
  cases hquote : Lexeme.isQuote c with
  | true =>
    have hc : c = '"' ∨ c = '\'' := by simpa [Lexeme.isQuote] using hquote
    refine ⟨rfl, ?_⟩
    rcases hc with rfl | rfl <;> rfl
  | false =>
    unfold front at h
    rw [hquote] at h
    -- No other class is that of strings.
    repeat' split at h
    case isTrue =>
      simp only [run, wordKind] at h
      split at h <;> contradiction
    case isFalse.isFalse.isFalse.isFalse.isFalse.isTrue =>
      unfold block at h
      split at h <;> contradiction
    case isFalse.isFalse.isFalse.isFalse.isFalse.isFalse.isFalse =>
      unfold operator at h
      split at h <;> contradiction
    all_goals contradiction

/-- A string takes as many characters as the reader counts behind its quote. -/
theorem word_string (quote : Char) (cs : List Char) : (string quote cs).1.word =
    quote :: cs.take (Lexeme.stringLength quote 0 cs).1 := by
  rw [string, first, List.take_succ_cons]

end Form

namespace Site

variable {source : List Char} (limit : Option Nat) (s : Site source)

/-- The unterminated tokens are those of unterminated forms, clipped or not. -/
theorem unterminated_token :
    (s.token limit).flags.unterminated = s.passage.form.flags.unterminated :=
  Bool.or_false _

/-- A string token takes what the reader counts behind its quote. -/
theorem stop_of_string (h : (s.token limit).kind = .string) :
    let (length, closed) := Lexeme.stringLength s.first 0 s.behind
    (s.token limit).span.stop = size (s.before ++ s.first :: s.behind.take length) ∧
      (s.token limit).flags.unterminated = !closed := by
  rw [kind_token] at h
  have hfront := (Form.eq_string_of_kind h).2
  constructor
  · rw [span_token, word, form_passage, hfront, Form.word_string]
  · rw [unterminated_token, form_passage, hfront]
    rfl

end Site

/-- Where the strings of any scan end. -/
theorem string_ends_scan (source : String) (options : Options) : StringEnds source options := by
  intro t ht hkind
  obtain ⟨s, rfl⟩ := Scanner.exists_site_of_mem_tokens ht
  obtain ⟨hstop, hflag⟩ := s.stop_of_string options.maxTokenLength hkind
  have hquote : Lexeme.isQuote s.first = true :=
    (Form.eq_string_of_kind (s.kind_token options.maxTokenLength ▸ hkind)).1
  have hescape := Lexeme.ne_backslash_of_isQuote hquote
  refine ⟨s.before, s.first, s.behind, s.source_eq, hquote, by rw [s.span_token], ?_, ?_, ?_⟩
  · intro body hbody
    rw [hstop, hflag, Lexeme.stringLength_of_shortest hescape hbody, Nat.zero_add]
    have htake := List.prefix_iff_eq_take.mp hbody.holds.begins
    rw [List.length_append] at htake
    rw [htake]
    exact ⟨rfl, rfl⟩
  · intro hnone
    rw [hstop, hflag, Lexeme.stringLength_of_not_closesAt hescape hnone, Nat.zero_add,
      List.take_length, ← s.source_eq]
    exact ⟨rfl, rfl⟩
  · intro f hf hf'
    rw [Lexeme.stringLength_map hf hf']
    exact ⟨hstop, hflag⟩

/-- Both backslashes at the end pair off in the first string, and the last one is alone in the
second. -/
example : ((Scanner.ofSource "'\n\"é\\\\' '\\" .default).tokens.map fun t => (t.span, t.flags)) =
    [(⟨0, 8⟩, .none), (⟨9, 11⟩, { unterminated := true })] := by
  decide +kernel

end UsageScan
