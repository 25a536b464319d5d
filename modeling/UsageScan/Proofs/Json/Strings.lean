import UsageScan.Proofs.Json.Grammar
/-!
# Strings in JSON texts

What `Json.readString` reads are the texts of strings, and it reads each of them as the string that
it spells. `Json.quote` writes one of them.

## Main results

* `Json.readHex_eq_ok_iff`, `Json.readEscape_eq_ok_iff` — what stands behind a backslash
* `Json.readString_eq_ok_iff` — the texts that are read as a string
* `Json.spellsString_quote` — the text that is written for a string
-/

set_option autoImplicit false

namespace UsageScan.Json

/-! ### Escapes -/

section Escape

variable {cs rest : List Char} {c : Char} {n : Nat}

/-- Read are four hexadecimal digits. -/
theorem readHex_eq_ok_iff : readHex cs = .ok (n, rest) ↔
    ∃ digits, hexNumber? digits = some n ∧ cs = digits ++ rest := by
  constructor
  · intro h
    unfold readHex at h
    split at h
    case h_1 a b c d behind =>
      split at h
      case h_1 ha hb hc hd =>
        cases h
        exact ⟨[a, b, c, d], by simp [hexNumber?, ha, hb, hc, hd], rfl⟩
      case h_2 => cases h
    case h_2 => cases h
  · rintro ⟨digits, hdigits, rfl⟩
    unfold hexNumber? at hdigits
    split at hdigits
    case h_1 a b c d =>
      simp only [Option.bind_eq_bind, Option.bind_eq_some_iff] at hdigits
      obtain ⟨a', ha, b', hb, c', hc, d', hd, hn⟩ := hdigits
      cases hn
      simp only [List.cons_append, List.nil_append, readHex, ha, hb, hc, hd]
    case h_2 => cases hdigits

theorem readLowSurrogate_eq_ok_iff {high : Nat} : readLowSurrogate high cs = .ok (c, rest) ↔
    ∃ digits low, hexNumber? digits = some low ∧ isLowSurrogate low = true ∧
      pairChar high low = c ∧ cs = '\\' :: 'u' :: (digits ++ rest) := by
  constructor
  · intro h
    unfold readLowSurrogate at h
    split at h
    case h_1 behind =>
      split at h
      case h_1 => cases h
      case h_2 low behind' hhex =>
        obtain ⟨digits, hdigits, rfl⟩ := readHex_eq_ok_iff.mp hhex
        split at h
        case isFalse => cases h
        case isTrue hlow =>
          obtain ⟨rfl, rfl⟩ := Prod.mk.inj (Except.ok.inj h)
          exact ⟨digits, low, hdigits, hlow, rfl, rfl⟩
    all_goals cases h
  · rintro ⟨digits, low, hdigits, hlow, rfl, rfl⟩
    have hhex : readHex (digits ++ rest) = .ok (low, rest) :=
      readHex_eq_ok_iff.mpr ⟨digits, hdigits, rfl⟩
    simp only [readLowSurrogate, hhex, if_pos hlow]

/-- A code point is read from its digits, or from those of both its halves. -/
theorem readCodePoint_eq_ok_iff : readCodePoint cs = .ok (c, rest) ↔
    ∃ text, Escapes c ('u' :: text) ∧ cs = text ++ rest := by
  constructor
  · intro h
    unfold readCodePoint at h
    split at h
    case h_1 => cases h
    case h_2 n behind hhex =>
      obtain ⟨digits, hdigits, rfl⟩ := readHex_eq_ok_iff.mp hhex
      split at h
      case isTrue => cases h
      case isFalse hlow =>
        split at h
        case isTrue hhigh =>
          obtain ⟨digits', low, hdigits', hlow', rfl, rfl⟩ := readLowSurrogate_eq_ok_iff.mp h
          exact ⟨digits ++ '\\' :: 'u' :: digits', .pair hdigits hhigh hdigits' hlow',
            by simp only [List.append_assoc, List.cons_append]⟩
        case isFalse hhigh =>
          obtain ⟨rfl, rfl⟩ := Prod.mk.inj (Except.ok.inj h)
          exact ⟨digits, .codePoint hdigits (Bool.eq_false_iff.mpr hlow)
            (Bool.eq_false_iff.mpr hhigh), rfl⟩
  · rintro ⟨text, htext, rfl⟩
    cases htext with
    | letter hletter => cases hletter
    | @codePoint _ n hdigits hlow hhigh =>
      have hhex : readHex (text ++ rest) = .ok (n, rest) :=
        readHex_eq_ok_iff.mpr ⟨text, hdigits, rfl⟩
      simp only [readCodePoint, hhex, hlow, hhigh, Bool.false_eq_true, if_false]
    | @pair digits digits' high low hdigits hhigh hdigits' hlow' =>
      have hhex : readHex (digits ++ '\\' :: 'u' :: (digits' ++ rest)) =
          .ok (high, '\\' :: 'u' :: (digits' ++ rest)) :=
        readHex_eq_ok_iff.mpr ⟨digits, hdigits, rfl⟩
      have hpair : readLowSurrogate high ('\\' :: 'u' :: (digits' ++ rest)) =
          .ok (pairChar high low, rest) :=
        readLowSurrogate_eq_ok_iff.mpr ⟨digits', low, hdigits', hlow', rfl, rfl⟩
      -- No number is both a first half and a second half.
      have hlow : isLowSurrogate high = false := by
        simp only [isHighSurrogate, isLowSurrogate, Bool.and_eq_true, decide_eq_true_eq,
          Bool.and_eq_false_iff, decide_eq_false_iff_not] at hhigh ⊢
        omega
      simp only [readCodePoint, List.append_assoc, List.cons_append, hhex, hlow, hhigh, hpair,
        Bool.false_eq_true, if_false, if_true]

/-- Read is what may stand behind a backslash. -/
theorem readEscape_eq_ok_iff : readEscape cs = .ok (c, rest) ↔
    ∃ text, Escapes c text ∧ cs = text ++ rest := by
  constructor
  · intro h
    unfold readEscape at h
    split at h
    case h_1 => cases h
    case h_2 l behind =>
      split at h
      case h_1 d hletter =>
        obtain ⟨rfl, rfl⟩ := Prod.mk.inj (Except.ok.inj h)
        exact ⟨[l], .letter hletter, rfl⟩
      case h_2 =>
        split at h
        case isFalse => cases h
        case isTrue hu =>
          obtain ⟨text, htext, rfl⟩ := readCodePoint_eq_ok_iff.mp h
          exact ⟨'u' :: text, htext, by rw [hu, List.cons_append]⟩
  · rintro ⟨text, htext, rfl⟩
    have hcode {digits : List Char} (h : Escapes c ('u' :: digits)) :
        readEscape ('u' :: digits ++ rest) = .ok (c, rest) :=
      readCodePoint_eq_ok_iff.mpr ⟨digits, h, rfl⟩
    cases htext with
    | letter hletter => simp only [List.singleton_append, readEscape, hletter]
    | codePoint hdigits hlow hhigh => exact hcode (.codePoint hdigits hlow hhigh)
    | pair hdigits hhigh hdigits' hlow' => exact hcode (.pair hdigits hhigh hdigits' hlow')

end Escape

/-! ### Strings -/

section String

variable {rest : List Char}

/-- A character that may stand as it is is read as it is. -/
theorem readStringFrom_plain {c : Char} (read : List Char) (hquote : c ≠ '"') (hslash : c ≠ '\\')
    (hcontrol : 0x20 ≤ c.toNat) :
    readStringFrom read (c :: rest) = readStringFrom (c :: read) rest := by
  rw [readStringFrom, if_neg hquote, if_neg hslash, if_neg (Nat.not_lt.mpr hcontrol)]

/-- Of a character, the reader keeps what its text spells. -/
theorem readStringFrom_spellsChar {c : Char} {text : List Char} (h : SpellsChar c text)
    (read : List Char) :
    readStringFrom read (text ++ rest) = readStringFrom (c :: read) rest := by
  cases h with
  | plain hquote hslash hcontrol => exact readStringFrom_plain read hquote hslash hcontrol
  | @escaped text h =>
    have hescape : readEscape (text ++ rest) = .ok (c, rest) :=
      readEscape_eq_ok_iff.mpr ⟨text, h, rfl⟩
    rw [List.cons_append, readStringFrom, if_neg (by decide), if_pos rfl, hescape]

theorem readStringFrom_spellsChars {s texts : List Char} (h : SpellsChars s texts)
    (read : List Char) :
    readStringFrom read (texts ++ rest) = readStringFrom (s.reverse ++ read) rest := by
  induction h generalizing read with
  | nil => rfl
  | cons hc _ ih =>
    rw [List.append_assoc, readStringFrom_spellsChar hc, ih, List.reverse_cons,
      List.append_assoc, List.singleton_append]

/-- What has been read as the rest of a string is the text of characters and a quotation mark. -/
theorem exists_of_readStringFrom {read cs : List Char} {s : String}
    (h : readStringFrom read cs = .ok (s, rest)) :
    ∃ more texts, SpellsChars more texts ∧ s = .ofList (read.reverse ++ more) ∧
      cs = texts ++ '"' :: rest := by
  -- Besides the closing mark, only an escape and a plain character are read on from.
  fun_induction readStringFrom read cs with
  | case1 => cases h
  | case2 read cs =>
    cases h
    exact ⟨[], [], .nil, by rw [List.append_nil], rfl⟩
  | case3 => cases h
  | case4 read cs c behind hescape _ ih =>
    obtain ⟨more, texts, htexts, rfl, rfl⟩ := ih h
    obtain ⟨text, htext, rfl⟩ := readEscape_eq_ok_iff.mp hescape
    exact ⟨c :: more, _, .cons (.escaped htext) htexts, by
      rw [List.reverse_cons, List.append_assoc, List.singleton_append], by
      simp only [List.cons_append, List.append_assoc]⟩
  | case5 => cases h
  | case6 read c cs hquote hslash hcontrol ih =>
    obtain ⟨more, texts, htexts, rfl, rfl⟩ := ih h
    exact ⟨c :: more, _, .cons (.plain hquote hslash (Nat.not_lt.mp hcontrol)) htexts, by
      rw [List.reverse_cons, List.append_assoc, List.singleton_append], rfl⟩

/-- The texts that are read as a string are those that spell it. -/
theorem readString_eq_ok_iff {cs : List Char} {s : String} : readString cs = .ok (s, rest) ↔
    ∃ texts, SpellsChars s.toList texts ∧ cs = texts ++ '"' :: rest := by
  constructor
  · intro h
    obtain ⟨more, texts, htexts, rfl, rfl⟩ := exists_of_readStringFrom h
    exact ⟨texts, by simpa using htexts, rfl⟩
  · rintro ⟨texts, htexts, rfl⟩
    rw [readString, readStringFrom_spellsChars htexts, readStringFrom, if_pos rfl]
    simp

end String

/-! ### Writing strings -/

theorem hexValue?_digitChar : ∀ n < 16, hexValue? (Nat.digitChar n) = some n := by
  decide

/-- Each character is written in one of the ways in which it may be written. -/
theorem spellsChar_escape (c : Char) : SpellsChar c (escape c) := by
  unfold escape
  split
  case h_8 hquote hslash _ _ _ _ _ =>
    split
    case isTrue hcontrol =>
      -- Below 0x20 two digits are enough, and no such number is half of a pair.
      have hdigits : hexNumber? ['0', '0', Nat.digitChar (c.toNat / 16),
          Nat.digitChar (c.toNat % 16)] = some c.toNat := by
        have hhigh := hexValue?_digitChar (c.toNat / 16) (by omega)
        have hlow := hexValue?_digitChar (c.toNat % 16) (by omega)
        have hzero : hexValue? '0' = some 0 := by decide
        simp only [hexNumber?, hzero, hhigh, hlow, Option.bind_eq_bind, Option.bind_some]
        congr 1
        omega
      have hcode := Escapes.codePoint hdigits
        (by simp only [isLowSurrogate, Bool.and_eq_false_iff, decide_eq_false_iff_not]; omega)
        (by simp only [isHighSurrogate, Bool.and_eq_false_iff, decide_eq_false_iff_not]; omega)
      rw [Char.ofNat_toNat] at hcode
      exact .escaped hcode
    case isFalse hcontrol =>
      exact .plain (fun h => hquote h) (fun h => hslash h) (Nat.not_lt.mp hcontrol)
  all_goals exact .escaped (.letter (by decide))

theorem spellsChars_flatMap_escape (s : List Char) : SpellsChars s (s.flatMap escape) := by
  induction s with
  | nil => exact .nil
  | cons c s ih => exact .cons (spellsChar_escape c) ih

/-- What is written for a string spells it. -/
theorem spellsString_quote (s : String) : SpellsString s (quote s) :=
  ⟨_, spellsChars_flatMap_escape s.toList, rfl⟩

end UsageScan.Json
