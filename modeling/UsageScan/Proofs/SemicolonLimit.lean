import UsageScan.Proofs.Limit
import UsageScan.Proofs.Semicolon
import UsageScan.Proofs.Spelling
import Mathlib.Data.List.Nodup
/-!
# The semicolon check under a length limit

A keyword, a parenthesis or an operator has its meaning whatever is shown of it. But the check goes
by the texts as they are shown, so it misses a word that a length limit cuts. Two limits therefore
lead to the same warnings for all sources exactly if the same words fit both of them.

## Main definitions

* `SemicolonLint.words` — the words that the check asks for
* `SemicolonLint.found` — those among them that it still finds under a limit
* `SemicolonLimits` — what the check has in common under two limits

## Main results

* `SemicolonLint.observe_congr` — the check sees nothing of a token but its class and these words
* `semicolon_limits` — when two limits lead to the same warnings
-/

set_option autoImplicit false

namespace UsageScan

open Text

/-- The same settings with semicolons checked under a length limit. -/
def Options.checking (o : Options) (limit : Option Nat) : Options :=
  { o with checkSemicolons := true, maxTokenLength := limit }

namespace SemicolonLint

/-- The words that the check asks for. -/
def words : List String :=
  ["if", "for", "while", "function", "null", "true", "false", "]", "(", ")", "++", "--"]

/-- The words that the check still finds under a length limit, because they fit it. -/
def found (limit : Option Nat) : List String :=
  words.filter fun w => limit.all fun n => w.length ≤ n

end SemicolonLint

/-- What the semicolon check has in common under two length limits. -/
structure SemicolonLimits (options : Options) (m n : Option Nat) : Prop where
  /-- A source is warned about in the same way if each word in it that the check asks for is found
  under both limits or under neither. -/
  alike : ∀ source, (∀ t ∈ (Scanner.ofSource source (options.checking none)).tokens,
      t.kind.isSpelled = true → (t.text ∈ SemicolonLint.found m ↔ t.text ∈ SemicolonLint.found n)) →
    semicolonWarnings source (options.checking m) = semicolonWarnings source (options.checking n)
  /-- All sources are warned about in the same way exactly if the same words are found. -/
  all : (∀ source, semicolonWarnings source (options.checking m) =
      semicolonWarnings source (options.checking n)) ↔
    SemicolonLint.found m = SemicolonLint.found n

/-! ### What the check sees of a token -/

/-- Two tokens that the check does not tell apart. -/
structure Token.Alike (t u : Token) : Prop where
  kind : t.kind = u.kind
  text : t.kind.isSpelled = true → ∀ w ∈ SemicolonLint.words, t.text = w ↔ u.text = w

/-- Whether such a token is one of these words does not depend on the token. -/
theorem Token.Alike.is_congr {t u : Token} (h : Alike t u) {kind : Kind}
    (hkind : kind.isSpelled = true) {w : String} (hw : w ∈ SemicolonLint.words) :
    t.is kind w = u.is kind w := by
  rw [Bool.eq_iff_iff]
  simp only [Token.is, Bool.and_eq_true, beq_iff_eq, ← h.kind]
  apply and_congr_right
  intro hkind'
  apply h.text _ w hw
  rw [hkind', hkind]

namespace SemicolonLint

variable {t u : Token}

/-- A list of such words has both texts or neither. -/
theorem contains_congr {ws : List String} (hws : ws ⊆ words)
    (h : ∀ w ∈ words, t.text = w ↔ u.text = w) : ws.contains t.text = ws.contains u.text := by
  rw [Bool.eq_iff_iff, List.contains_iff_mem, List.contains_iff_mem]
  constructor
  · intro hmem
    rw [(h _ (hws hmem)).mp rfl]
    exact hmem
  · intro hmem
    rw [(h _ (hws hmem)).mpr rfl]
    exact hmem

theorem keepsHeader_congr (h : Token.Alike t u) (lint : SemicolonLint) :
    lint.keepsHeader t = lint.keepsHeader u := by
  unfold keepsHeader
  rw [← h.kind]
  cases hkind : t.kind with
  | keyword =>
    apply contains_congr (by decide)
    apply h.text
    rw [hkind]
    rfl
  | _ => rfl

theorem endsStatement_congr (h : Token.Alike t u) (lint : SemicolonLint) :
    lint.endsStatement t = lint.endsStatement u := by
  have htext : t.kind.isSpelled = true → ∀ w ∈ words, (t.text == w) = (u.text == w) := by
    intro hspelled w hw
    rw [Bool.eq_iff_iff, beq_iff_eq, beq_iff_eq]
    exact h.text hspelled w hw
  unfold endsStatement
  rw [← h.kind]
  cases hkind : t.kind with
  | keyword =>
    apply contains_congr (by decide)
    apply h.text
    rw [hkind]
    rfl
  | delimiter =>
    have hwords := htext (by rw [hkind]; rfl)
    simp only [hwords "]" (by decide), hwords ")" (by decide)]
  | operator =>
    have hwords := htext (by rw [hkind]; rfl)
    simp only [hwords "++" (by decide), hwords "--" (by decide)]
  | _ => rfl

theorem followParentheses_congr (h : Token.Alike t u) (lint : SemicolonLint) :
    lint.followParentheses t = lint.followParentheses u := by
  have hopening : t.is .delimiter "(" = u.is .delimiter "(" := h.is_congr rfl (by decide)
  have hclosing : t.is .delimiter ")" = u.is .delimiter ")" := h.is_congr rfl (by decide)
  rw [followParentheses, hopening, hclosing, followParentheses]

/-- The check does the same at two such tokens. -/
theorem observe_congr (h : Token.Alike t u) (lint : SemicolonLint) (stop : Location) :
    lint.observe t stop = lint.observe u stop := by
  rw [observe, h.kind, followParentheses_congr h, keepsHeader_congr h, endsStatement_congr h,
    observe]

end SemicolonLint

/-! ### Tokens under a limit -/

/-- A token as it is under a length limit. -/
def Token.limited (limit : Option Nat) (t : Token) : Token :=
  match limit with
  | none => t
  | some n => t.clipped n

/-- An occurrence as it is under a length limit. -/
def Occurrence.limited (limit : Option Nat) (o : Occurrence) : Occurrence :=
  match limit with
  | none => o
  | some n => o.clipped n

theorem Token.kind_limited (limit : Option Nat) (t : Token) : (t.limited limit).kind = t.kind := by
  cases limit <;> rfl

theorem Token.text_limited (limit : Option Nat) (t : Token) :
    (t.limited limit).text = (clip limit t.text.toList).1 := by
  cases limit with
  | none => exact String.ofList_toList.symm
  | some n => rfl

/-- What is come across under a limit is what is come across without one, limited. -/
theorem Pull.occurrencesFrom_eq_map (limit : Option Nat) (c : Cursor) :
    occurrencesFrom limit c = (occurrencesFrom none c).map (Occurrence.limited limit) := by
  cases limit with
  | none => exact (List.map_id _).symm
  | some n => exact occurrencesFrom_some n c

/-- A text is shown whole if it fits the limit. -/
theorem clip_eq_self_iff {limit : Option Nat} {s : String} :
    (clip limit s.toList).1 = s ↔ (limit.all fun n => s.length ≤ n) = true := by
  cases limit with
  | none => simp [clip]
  | some n =>
    rw [clip, Option.all_some, decide_eq_true_iff]
    constructor
    · intro h
      have hlength := congrArg String.length h
      rw [String.length_ofList, List.length_take, String.length_toList] at hlength
      omega
    · intro h
      rw [List.take_of_length_le (by rwa [String.length_toList]), String.ofList_toList]

/-- A fixed spelling is shown as a word that the check asks for only if it is that word and fits the
limit. So no other spelling is mistaken for it. -/
theorem clip_eq_iff {limit : Option Nat} {s w : String} (hs : s ∈ spellings)
    (hw : w ∈ SemicolonLint.words) :
    (clip limit s.toList).1 = w ↔ s = w ∧ s ∈ SemicolonLint.found limit := by
  -- No word that the check asks for begins a longer spelling.
  have hbegins : ∀ w ∈ SemicolonLint.words, ∀ s ∈ spellings, w.toList <+: s.toList → s = w := by
    decide +kernel
  have heq : (clip limit s.toList).1 = w → s = w := by
    intro hclip
    have hfront := clip_prefix limit s.toList
    rw [hclip] at hfront
    exact hbegins w hw s hs hfront
  constructor
  · intro hclip
    obtain rfl := heq hclip
    exact ⟨rfl, List.mem_filter.mpr ⟨hw, clip_eq_self_iff.mp hclip⟩⟩
  · rintro ⟨rfl, hfound⟩
    exact clip_eq_self_iff.mpr (List.mem_filter.mp hfound).2

/-- Under two limits the check does not tell a token apart if both or neither of them cut it. -/
theorem Token.alike_limited {m n : Option Nat} {t : Token}
    (hspelled : t.kind.isSpelled = true → t.text ∈ spellings)
    (hfound : t.kind.isSpelled = true →
      (t.text ∈ SemicolonLint.found m ↔ t.text ∈ SemicolonLint.found n)) :
    Alike (t.limited m) (t.limited n) where
  kind := by rw [kind_limited, kind_limited]
  text hkind w hw := by
    rw [kind_limited] at hkind
    rw [text_limited, text_limited, clip_eq_iff (hspelled hkind) hw,
      clip_eq_iff (hspelled hkind) hw, hfound hkind]

namespace SemicolonLint

variable {m n : Option Nat}

theorem take_limited_congr {o : Occurrence}
    (h : ∀ t stop, o = .token t stop → Token.Alike (t.limited m) (t.limited n))
    (lint : SemicolonLint) : lint.take (o.limited m) = lint.take (o.limited n) := by
  have htake (limit : Option Nat) (t : Token) (stop : Location) :
      lint.take (Occurrence.limited limit (.token t stop)) =
        (none, lint.observe (t.limited limit) stop) := by
    cases limit <;> rfl
  cases o with
  | token t stop => rw [htake, htake, observe_congr (h t stop rfl)]
  | _ => cases m <;> cases n <;> rfl

/-- The check makes the same of occurrences under two limits if it does not tell their tokens
apart. -/
theorem warnings_limited_congr {seen : List Occurrence}
    (h : ∀ t stop, .token t stop ∈ seen → Token.Alike (t.limited m) (t.limited n))
    (lint : SemicolonLint) :
    lint.warnings (seen.map (.limited m)) = lint.warnings (seen.map (.limited n)) := by
  induction seen generalizing lint with
  | nil => rfl
  | cons o seen ih =>
    have htake : lint.take (o.limited m) = lint.take (o.limited n) := by
      apply take_limited_congr
      rintro t stop rfl
      exact h t stop List.mem_cons_self
    have hseen : ∀ t stop, .token t stop ∈ seen → Token.Alike (t.limited m) (t.limited n) :=
      fun t stop ht => h t stop (List.mem_cons_of_mem o ht)
    rw [List.map_cons, List.map_cons, warnings, warnings, htake, ih hseen]

/-- The warnings of the check for a source under a length limit. -/
def warningsUnder (limit : Option Nat) (source : String) : List Warning :=
  start.warnings (Pull.occurrencesFrom limit (.ofText source))

theorem semicolonWarnings_checking (options : Options) (limit : Option Nat) (source : String) :
    semicolonWarnings source (options.checking limit) = warningsUnder limit source :=
  semicolonWarnings_eq source rfl

theorem warningsUnder_congr (options : Options) {source : String}
    (h : ∀ t ∈ (Scanner.ofSource source (options.checking none)).tokens,
      t.kind.isSpelled = true → (t.text ∈ found m ↔ t.text ∈ found n)) :
    warningsUnder m source = warningsUnder n source := by
  rw [warningsUnder, warningsUnder, Pull.occurrencesFrom_eq_map m, Pull.occurrencesFrom_eq_map n]
  apply warnings_limited_congr
  intro t stop ht
  have htoken : t ∈ (Scanner.ofSource source (options.checking none)).tokens := by
    rw [Scanner.tokens_eq_filterMap]
    exact List.mem_filterMap.mpr ⟨_, ht, rfl⟩
  exact Token.alike_limited (Scanner.text_mem_spellings rfl htoken) (h t htoken)

theorem warningsUnder_of_found_eq (h : found m = found n) (source : String) :
    warningsUnder m source = warningsUnder n source := by
  apply warningsUnder_congr .default
  intro t _ _
  rw [h]

/-! ### Limits that make a difference -/

/-- Limits of which no two find the same words. -/
def representatives : List (Option Nat) :=
  [some 0, some 1, some 2, some 3, some 4, some 5, none]

/-- Sources that tell these limits apart: each has a word of another length. -/
def telltales : List String :=
  ["]", "++", "for()", "null", "false", "function()"]

/-- Under each limit, the check finds the same words as under one of a few. -/
theorem exists_found_eq (limit : Option Nat) : ∃ r ∈ representatives, found limit = found r := by
  cases limit with
  | none => exact ⟨none, by decide, rfl⟩
  | some n =>
    -- No word is longer than eight characters, so a limit beyond that cuts none of them.
    by_cases hlong : 8 ≤ n
    · refine ⟨none, by decide, ?_⟩
      have hwords : ∀ w ∈ words, w.length ≤ 8 := by decide
      apply List.filter_congr
      intro w hw
      have hle := hwords w hw
      simp only [Option.all_some, Option.all_none, decide_eq_true_eq]
      omega
    · have hshort : ∀ n < 8, ∃ r ∈ representatives, found (some n) = found r := by decide
      exact hshort n (Nat.lt_of_not_le hlong)

/-- The telltale sources are warned about differently under any two of these limits. -/
theorem nodup_map_telltales :
    (representatives.map fun r => telltales.map (warningsUnder r)).Nodup := by
  decide +kernel

theorem found_eq_of_warningsUnder (h : ∀ source, warningsUnder m source = warningsUnder n source) :
    found m = found n := by
  -- The two limits are told apart like their representatives, and these by the telltale sources.
  obtain ⟨r, hr, hm⟩ := exists_found_eq m
  obtain ⟨r', hr', hn⟩ := exists_found_eq n
  have htold : telltales.map (warningsUnder r) = telltales.map (warningsUnder r') := by
    apply List.map_congr_left
    intro source _
    calc warningsUnder r source
      _ = warningsUnder m source := warningsUnder_of_found_eq hm.symm source
      _ = warningsUnder n source := h source
      _ = warningsUnder r' source := warningsUnder_of_found_eq hn source
  have hsame : r = r' := List.inj_on_of_nodup_map nodup_map_telltales hr hr' htold
  rw [hm, hn, hsame]

end SemicolonLint

/-- Two limits lead to the same warnings about semicolons exactly if the same words fit them. -/
theorem semicolon_limits (options : Options) (m n : Option Nat) :
    SemicolonLimits options m n where
  alike source h := by
    rw [SemicolonLint.semicolonWarnings_checking, SemicolonLint.semicolonWarnings_checking]
    exact SemicolonLint.warningsUnder_congr options h
  all := by
    simp only [SemicolonLint.semicolonWarnings_checking]
    constructor
    · intro h
      exact SemicolonLint.found_eq_of_warningsUnder h
    · intro h source
      exact SemicolonLint.warningsUnder_of_found_eq h source

/-- Under a limit of one character, a value that lacks its semicolon is not warned about. -/
theorem semicolonWarnings_null :
    semicolonWarnings "null" (Options.default.checking (some 1)) = [] ∧
      semicolonWarnings "null" (Options.default.checking none) =
        [.missingSemicolon ⟨1, 5⟩] := by
  decide +kernel

end UsageScan
