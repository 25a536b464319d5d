import Mathlib.Data.List.Basic
import Mathlib.Data.List.TakeWhile
import UsageScan.Proofs.Except
import UsageScan.Proofs.Json.Grammar
/-!
# Numbers in JSON texts

A number without sign, fraction and exponent is the decimal spelling of a natural number, and there
is one such spelling only. It is read as this natural number if that fits into 64 bits. Any other
number is read as a negative integer or a floating-point number, or refused.

## Main definitions

* `Json.digitsValueFrom` — the number that digits make behind those of another number

## Main results

* `Json.isNumber_repr`, `Json.repr_digitsValue` — the numbers that are digits alone
* `Json.appendDigits_eq_iff` — which digits fit into 64 bits
* `Json.readNumber_eq_natural_iff` — which numbers are read as a natural number
-/

set_option autoImplicit false

namespace UsageScan.Json

/-! ### Natural numbers -/

/-- No decimal number but zero begins with a zero. -/
theorem exists_toDigits_eq_cons {n : Nat} (h : 0 < n) :
    ∃ c cs, Nat.toDigits 10 n = c :: cs ∧ c ≠ '0' := by
  -- The first digit of a number is that of its tenth, which is positive too.
  induction n using Nat.strongRecOn with
  | ind n ih =>
    rw [Nat.toDigits_eq_if (by decide)]
    split
    case isTrue hsmall =>
      have hdigit : ∀ n < 10, 0 < n → Nat.digitChar n ≠ '0' := by decide
      exact ⟨_, [], rfl, hdigit n hsmall h⟩
    case isFalse hlarge =>
      obtain ⟨c, cs, hcs, hc⟩ := ih (n / 10) (by omega) (by omega)
      exact ⟨c, cs ++ [(n % 10).digitChar], by rw [hcs, List.cons_append], hc⟩

/-- A natural number is spelled with digits alone. -/
theorem isDigits_repr (n : Nat) : isDigits n.repr.toList = true := by
  have hall : (Nat.toDigits 10 n).all Char.isDigit = true :=
    List.all_eq_true.mpr fun _ hd => Nat.isDigit_of_mem_toDigits (by decide) (by decide) hd
  have hne : (Nat.toDigits 10 n).isEmpty = false := by
    rw [Nat.toDigits_eq_if (by decide)]
    split
    · rfl
    · simp
  rw [Nat.toList_repr, isDigits, hall, hne]
  rfl

/-- A natural number is spelled as a number. -/
theorem isNumber_repr (n : Nat) : isNumber n.repr.toList = true := by
  rcases Nat.eq_zero_or_pos n with rfl | hpos
  · decide
  obtain ⟨c, cs, hcs, hzero⟩ := exists_toDigits_eq_cons hpos
  have hdigits : ∀ d ∈ c :: cs, d.isDigit = true := by
    have hall := (Bool.and_eq_true_iff.mp (isDigits_repr n)).2
    rw [Nat.toList_repr, hcs] at hall
    exact List.all_eq_true.mp hall
  have htake : (c :: cs).takeWhile Char.isDigit = c :: cs := List.takeWhile_eq_self_iff.mpr hdigits
  have hdrop : (c :: cs).dropWhile Char.isDigit = [] := List.dropWhile_eq_nil_iff.mpr hdigits
  -- A whole number of several digits must not begin with a zero.
  have hwhole : isWhole (c :: cs) = true := by
    unfold isWhole
    split
    case h_1 heq => cases heq
    case h_2 => rfl
    case h_3 heq =>
      cases heq
      exact Bool.and_eq_true_iff.mpr ⟨bne_iff_ne.mpr hzero, List.all_eq_true.mpr hdigits⟩
  have hsign : c ≠ '-' := by
    rintro rfl
    exact absurd (hdigits '-' List.mem_cons_self) (by decide)
  rw [Nat.toList_repr, hcs]
  unfold isNumber
  split
  case h_1 heq => exact absurd (List.cons.inj heq).1 hsign
  case h_2 =>
    rw [isMagnitude, htake, hdrop, hwhole]
    rfl

theorem digitsValue_repr (n : Nat) : digitsValue n.repr.toList = n := by
  have hten (m k : Nat) : m * 10 + k = 10 * m + k := by rw [Nat.mul_comm]
  rw [Nat.toList_repr]
  simp only [digitsValue, hten]
  exact Nat.ofDigitChars_toDigits (by decide) (by decide)

/-- The number that some digits make behind those of the number `n`. -/
def digitsValueFrom (n : Nat) (digits : List Char) : Nat :=
  digits.foldl (fun n d => n * 10 + (d.toNat - '0'.toNat)) n

theorem digitsValueFrom_cons (n : Nat) (d : Char) (ds : List Char) :
    digitsValueFrom n (d :: ds) = digitsValueFrom (n * 10 + (d.toNat - '0'.toNat)) ds := by
  rw [digitsValueFrom, List.foldl_cons, ← digitsValueFrom]

/-- Digits make a number no smaller. -/
theorem le_digitsValueFrom (n : Nat) (digits : List Char) : n ≤ digitsValueFrom n digits := by
  induction digits generalizing n with
  | nil => exact Nat.le_refl n
  | cons d ds ih =>
    calc n
      _ ≤ n * 10 := Nat.le_mul_of_pos_right n (by decide)
      _ ≤ n * 10 + (d.toNat - '0'.toNat) := Nat.le_add_right _ _
      _ ≤ digitsValueFrom n (d :: ds) := ih _

/-- A digit has a value below ten, and is the digit for it. -/
theorem digit_of_isDigit {d : Char} (h : d.isDigit = true) :
    d.toNat - '0'.toNat < 10 ∧ Nat.toDigits 10 (d.toNat - '0'.toNat) = [d] := by
  have hzero : '0'.toNat = 48 := rfl
  obtain ⟨hge, hle⟩ : 48 ≤ d.toNat ∧ d.toNat ≤ 57 := by
    simpa [Char.isDigit, UInt32.le_iff_toNat_le] using h
  have hten : d.toNat - '0'.toNat < 10 := by omega
  refine ⟨hten, ?_⟩
  rw [Nat.toDigits_of_lt_base hten, List.singleton_inj]
  apply Char.toNat_inj.mp
  rw [Nat.toNat_digitChar_of_lt_ten hten]
  omega

/-- Zero alone has the value zero. -/
theorem value_pos_of_isDigit {d : Char} (h : d.isDigit = true) (hzero : d ≠ '0') :
    0 < d.toNat - '0'.toNat := by
  rw [Nat.pos_iff_ne_zero]
  intro hvalue
  have hdigit := (digit_of_isDigit h).2
  rw [hvalue] at hdigit
  exact hzero (List.singleton_inj.mp hdigit).symm

/-- Behind the digits of a positive number further digits stand as they are. -/
theorem toDigits_digitsValueFrom {n : Nat} (hn : 0 < n) {digits : List Char}
    (h : ∀ d ∈ digits, d.isDigit = true) :
    Nat.toDigits 10 (digitsValueFrom n digits) = Nat.toDigits 10 n ++ digits := by
  -- The number in front stays positive, so that no digit is lost as a zero in front.
  induction digits generalizing n with
  | nil => exact (List.append_nil _).symm
  | cons d ds ih =>
    rw [List.forall_mem_cons] at h
    obtain ⟨hd, hds⟩ := h
    obtain ⟨hten, hdigit⟩ := digit_of_isDigit hd
    have happend := Nat.toDigits_append_toDigits (by decide) hn hten
    have hpos : 0 < n * 10 + (d.toNat - '0'.toNat) := Nat.add_pos_left (by omega) _
    calc Nat.toDigits 10 (digitsValueFrom n (d :: ds))
      _ = Nat.toDigits 10 (n * 10 + (d.toNat - '0'.toNat)) ++ ds := ih hpos hds
      _ = Nat.toDigits 10 n ++ [d] ++ ds := by rw [← hdigit, happend, Nat.mul_comm]
      _ = Nat.toDigits 10 n ++ d :: ds := List.append_assoc ..

/-- The whole part of a number spells its value. -/
theorem repr_digitsValue {cs : List Char} (h : isWhole cs = true) :
    (digitsValue cs).repr.toList = cs := by
  rw [Nat.toList_repr]
  unfold isWhole at h
  split at h
  case h_1 => contradiction
  case h_2 => rfl
  case h_3 c cs _ =>
    obtain ⟨hzero, hdigits⟩ := Bool.and_eq_true_iff.mp h
    obtain ⟨hc, hcs⟩ := List.forall_mem_cons.mp (List.all_eq_true.mp hdigits)
    have hpos := value_pos_of_isDigit hc (bne_iff_ne.mp hzero)
    calc Nat.toDigits 10 (digitsValue (c :: cs))
      _ = Nat.toDigits 10 (digitsValueFrom (0 * 10 + (c.toNat - '0'.toNat)) cs) := rfl
      _ = c :: cs := by
        rw [Nat.zero_mul, Nat.zero_add, toDigits_digitsValueFrom hpos hcs, (digit_of_isDigit hc).2,
          List.singleton_append]

/-! ### What fits into 64 bits -/

/-- All digits count exactly if the number that they make fits into 64 bits. -/
theorem appendDigits_eq_iff {n m : Nat} (hn : n < UInt64.size) (digits : List Char) :
    appendDigits n digits = (m, 0) ↔ digitsValueFrom n digits = m ∧ m < UInt64.size := by
  induction digits generalizing n with
  | nil =>
    rw [appendDigits, Prod.mk.injEq, and_iff_left rfl]
    constructor
    · rintro rfl
      exact ⟨rfl, hn⟩
    · exact And.left
  | cons d ds ih =>
    rw [appendDigits, digitsValueFrom_cons]
    split
    · rename_i hfits
      exact ih hfits
    · rename_i hmuch
      -- Whatever digits follow, the number does not get smaller again.
      have hle := le_digitsValueFrom (n * 10 + (d.toNat - '0'.toNat)) ds
      constructor
      · intro h
        cases h
      · rintro ⟨rfl, hfits⟩
        exact absurd (hle.trans_lt hfits) hmuch

/-- The parts of which a natural number is made: digits alone that fit into 64 bits. -/
theorem Number.ofParts_eq_natural_iff {negative : Bool} {whole : List Char}
    {fraction : Option (List Char)} {exponent : Option Int} {k : Nat} :
    ofParts negative whole fraction exponent = .ok (.integer k) ↔
      negative = false ∧ fraction = none ∧ exponent = none ∧ digitsValue whole = k ∧
        k < UInt64.size := by
  have hfits : appendDigits 0 whole = (k, 0) ↔ digitsValue whole = k ∧ k < UInt64.size :=
    appendDigits_eq_iff (by decide) whole
  rw [ofParts, ← hfits]
  obtain ⟨n, dropped⟩ := appendDigits 0 whole
  rw [Prod.mk.injEq]
  constructor
  · intro h
    dsimp only at h
    split at h
    case isTrue hnatural =>
      simp only [Bool.and_eq_true, beq_iff_eq, Option.isNone_iff_eq_none, Bool.not_eq_true']
        at hnatural
      obtain ⟨⟨⟨hdropped, hfraction⟩, hexponent⟩, hsign⟩ := hnatural
      exact ⟨hsign, hfraction, hexponent, Int.ofNat.inj (Number.integer.inj (Except.ok.inj h)),
        hdropped⟩
    case isFalse =>
      split at h
      case isTrue hnegative =>
        -- A minus sign stands before a positive number, so what it makes is negative.
        simp only [Bool.and_eq_true, decide_eq_true_eq] at hnegative
        have hvalue := Number.integer.inj (Except.ok.inj h)
        omega
      case isFalse =>
        split at h <;> cases h
  · rintro ⟨rfl, rfl, rfl, rfl, rfl⟩
    rfl

/-! ### Reading a number -/

/-- Digits are read up to what may stand behind them. -/
theorem readDigits_append {ds rest : List Char} (hne : ds ≠ []) (hds : ∀ d ∈ ds, d.isDigit = true)
    (hrest : ∀ c ∈ rest.head?, c.isDigit = false) : readDigits (ds ++ rest) = .ok (ds, rest) := by
  have hstop : rest.takeWhile Char.isDigit = [] ∧ rest.dropWhile Char.isDigit = rest := by
    cases rest with
    | nil => exact ⟨rfl, rfl⟩
    | cons c rest =>
      have hc : ¬ c.isDigit = true := by simpa using hrest c rfl
      exact ⟨List.takeWhile_cons_of_neg hc, List.dropWhile_cons_of_neg hc⟩
  rw [readDigits, List.takeWhile_append_of_pos hds, List.dropWhile_append_of_pos hds, hstop.1,
    hstop.2, List.append_nil]
  split
  case h_1 => contradiction
  case h_2 => contradiction
  case h_3 => rfl

/-- No fraction is read where no point stands. -/
theorem readFraction_eq_none_iff {cs rest : List Char} :
    readFraction cs = .ok (none, rest) ↔ rest = cs ∧ cs.head? ≠ some '.' := by
  unfold readFraction
  split
  case h_1 cs =>
    constructor
    · intro h
      obtain ⟨⟨digits, rest'⟩, -, h⟩ := bind_eq_ok.mp h
      cases h
    · rintro ⟨-, hpoint⟩
      exact absurd rfl hpoint
  case h_2 hpoint =>
    have hhead : cs.head? ≠ some '.' := fun h => hpoint _ (List.eq_cons_of_mem_head? h)
    constructor
    · intro h
      cases h
      exact ⟨rfl, hhead⟩
    · rintro ⟨rfl, -⟩
      rfl

/-- No exponent is read where no letter for one stands. -/
theorem readExponent_eq_none_iff {cs rest : List Char} :
    readExponent cs = .ok (none, rest) ↔ rest = cs ∧ ∀ c ∈ cs.head?, c ≠ 'e' ∧ c ≠ 'E' := by
  unfold readExponent
  split
  case h_1 c cs =>
    split
    case isTrue hletter =>
      constructor
      · intro h
        obtain ⟨⟨n, rest'⟩, -, h⟩ := bind_eq_ok.mp h
        cases h
      · rintro ⟨-, hno⟩
        obtain ⟨he, hE⟩ := hno c rfl
        exact absurd hletter (not_or.mpr ⟨he, hE⟩)
    case isFalse hletter =>
      constructor
      · intro h
        cases h
        refine ⟨rfl, ?_⟩
        rintro d ⟨⟩
        exact not_or.mp hletter
      · rintro ⟨rfl, -⟩
        rfl
  case h_2 =>
    constructor
    · intro h
      cases h
      exact ⟨rfl, nofun⟩
    · rintro ⟨rfl, -⟩
      rfl

/-- What may stand behind a value continues no number. -/
theorem Ends.not_continued {rest : List Char} (h : Ends rest) : ∀ c ∈ rest.head?,
    c.isDigit = false ∧ c ≠ '.' ∧ c ≠ 'e' ∧ c ≠ 'E' := by
  intro c hc
  have hdelimiter := h c hc
  refine ⟨?_, ?_, ?_, ?_⟩
  · rw [← Bool.not_eq_true]
    intro hdigit
    rw [isDelimiter_of_isDigit hdigit] at hdelimiter
    contradiction
  all_goals
    rintro rfl
    contradiction

/-- Behind a whole part, either nothing stands or something that is not left unread. -/
theorem eq_nil_of_isFraction {tail rest : List Char} (h : isFraction tail = true)
    (hpoint : (tail ++ rest).head? ≠ some '.')
    (hletter : ∀ c ∈ (tail ++ rest).head?, c ≠ 'e' ∧ c ≠ 'E') : tail = [] := by
  unfold isFraction at h
  split at h
  case h_1 => exact absurd rfl hpoint
  case h_2 =>
    unfold isExponent at h
    split at h
    case h_1 => rfl
    case h_2 c cs _ =>
      obtain ⟨he, hE⟩ := hletter c rfl
      rw [beq_false_of_ne he, beq_false_of_ne hE] at h
      contradiction

/-- A whole part is some digits, and if the first one is a zero, then that is all. -/
theorem digits_of_isWhole {whole : List Char} (h : isWhole whole = true) :
    whole ≠ [] ∧ (∀ d ∈ whole, d.isDigit = true) ∧
      ¬ (whole.head? = some '0' ∧ 1 < whole.length) := by
  unfold isWhole at h
  split at h
  case h_1 => contradiction
  case h_2 =>
    refine ⟨List.cons_ne_nil _ _, List.forall_mem_singleton.mpr rfl, ?_⟩
    rintro ⟨-, hlength⟩
    exact Nat.lt_irrefl 1 hlength
  case h_3 c cs _ =>
    obtain ⟨hzero, hdigits⟩ := Bool.and_eq_true_iff.mp h
    refine ⟨List.cons_ne_nil _ _, List.all_eq_true.mp hdigits, ?_⟩
    rintro ⟨hhead, -⟩
    exact bne_iff_ne.mp hzero (Option.some.inj hhead)

/-- The whole part of a number is read up to what comes behind it. -/
theorem readNumber_append {negative : Bool} {whole more : List Char} (h : isWhole whole = true)
    (hmore : ∀ c ∈ more.head?, c.isDigit = false) : readNumber negative (whole ++ more) =
      (readFraction more >>= fun p => readExponent p.2 >>= fun q =>
        Number.ofParts negative whole p.1 q.1 >>= fun number => .ok (number, q.2)) := by
  obtain ⟨hne, hdigits, hzero⟩ := digits_of_isWhole h
  rw [readNumber, readDigits_append hne hdigits hmore]
  exact if_neg hzero

/-- A number is read as a natural number exactly if it is the spelling of one that fits into 64
bits. -/
theorem readNumber_eq_natural_iff {negative : Bool} {cs rest rest' : List Char} {k : Nat}
    (hcs : isMagnitude cs = true) (hrest : Ends rest) :
    readNumber negative (cs ++ rest) = .ok (.integer k, rest') ↔
      rest' = rest ∧ negative = false ∧ cs = k.repr.toList ∧ k < UInt64.size := by
  obtain ⟨hwhole, hfraction⟩ := Bool.and_eq_true_iff.mp hcs
  have hsplit : cs.takeWhile Char.isDigit ++ cs.dropWhile Char.isDigit = cs :=
    List.takeWhile_append_dropWhile
  have hmore : ∀ c ∈ (cs.dropWhile Char.isDigit ++ rest).head?, c.isDigit = false := by
    cases hdrop : cs.dropWhile Char.isDigit with
    | nil => exact fun c hc => (hrest.not_continued c hc).1
    | cons d tail =>
      rintro c ⟨⟩
      have hnot := List.head?_dropWhile_not Char.isDigit cs
      rw [hdrop] at hnot
      simpa using hnot
  have hread : readNumber negative (_ ++ (_ ++ rest)) = _ := readNumber_append hwhole hmore
  rw [← List.append_assoc, hsplit] at hread
  rw [hread]
  constructor
  · intro h
    obtain ⟨⟨fraction, cs'⟩, hpoint, h⟩ := bind_eq_ok.mp h
    obtain ⟨⟨exponent, cs''⟩, hletter, h⟩ := bind_eq_ok.mp h
    obtain ⟨number, hparts, h⟩ := bind_eq_ok.mp h
    obtain ⟨rfl, rfl⟩ := Prod.mk.inj (Except.ok.inj h)
    obtain ⟨rfl, rfl, rfl, hvalue, hfits⟩ := Number.ofParts_eq_natural_iff.mp hparts
    obtain ⟨rfl, hnoPoint⟩ := readFraction_eq_none_iff.mp hpoint
    obtain ⟨rfl, hnoLetter⟩ := readExponent_eq_none_iff.mp hletter
    -- Neither a fraction nor an exponent has been read, so the whole part is all there is.
    have hnil := eq_nil_of_isFraction hfraction hnoPoint hnoLetter
    rw [hnil, List.append_nil] at hsplit
    rw [hsplit] at hwhole hvalue
    refine ⟨by rw [hnil, List.nil_append], rfl, ?_, hfits⟩
    rw [← hvalue, repr_digitsValue hwhole]
  · rintro ⟨rfl, rfl, rfl, hfits⟩
    have hall : ∀ d ∈ k.repr.toList, d.isDigit = true :=
      List.all_eq_true.mp (Bool.and_eq_true_iff.mp (isDigits_repr k)).2
    have hcontinued := hrest.not_continued
    have hpoint : readFraction rest' = .ok (none, rest') := by
      refine readFraction_eq_none_iff.mpr ⟨rfl, fun h => ?_⟩
      exact (hcontinued _ h).2.1 rfl
    have hletter : readExponent rest' = .ok (none, rest') :=
      readExponent_eq_none_iff.mpr ⟨rfl, fun c hc => (hcontinued c hc).2.2⟩
    have hparts : Number.ofParts false k.repr.toList none none = .ok (.integer k) :=
      Number.ofParts_eq_natural_iff.mpr ⟨rfl, rfl, rfl, digitsValue_repr k, hfits⟩
    rw [List.takeWhile_eq_self_iff.mpr hall, List.dropWhile_eq_nil_iff.mpr hall, List.nil_append,
      hpoint]
    simp only [bind, Except.bind, hletter, hparts]

end UsageScan.Json
