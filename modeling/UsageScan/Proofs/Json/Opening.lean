import UsageScan.Proofs.Json.Number
import UsageScan.Proofs.Json.Reader
/-!
# How the texts of values open

A scalar is read as a whole where it opens, and of an array or an object the bracket alone. So how a
text opens tells which kind of value it spells, and which scalar. Only numbers that are spelled with
digits alone open as natural numbers.

## Main results

* `Json.SpellsString.readOpening` — how the text of a string opens
* `Json.readOpening_eq_natural_iff` — which numbers open as a natural number
-/

set_option autoImplicit false

namespace UsageScan.Json

variable {rest rest' : List Char}

/-- Blanks in front do not matter. -/
theorem readOpening_blanks_append {before : List Char} (h : Blanks before) (cs : List Char) :
    readOpening (before ++ cs) = readOpening cs := by
  rw [readOpening, skipBlanks_append h, ← readOpening]

theorem readOpening_quote (cs : List Char) : readOpening ('"' :: cs) =
    (readString cs >>= fun p => .ok (Opening.string p.1, p.2)) :=
  rfl

theorem readOpening_minus (cs : List Char) : readOpening ('-' :: cs) =
    (readNumber true cs >>= fun p => .ok (Opening.number p.1, p.2)) :=
  rfl

theorem readOpening_digit {d : Char} (h : d.isDigit = true) (cs : List Char) :
    readOpening (d :: cs) =
      (readNumber false (d :: cs) >>= fun p => .ok (Opening.number p.1, p.2)) := by
  have hskip : skipBlanks (d :: cs) = d :: cs :=
    skipBlanks_of_opens ⟨d, cs, rfl, isDelimiter_of_isDigit h⟩
  rw [readOpening, hskip]
  dsimp only
  -- No digit is one of the characters that open another value.
  split
  case h_8 => exact if_pos h
  all_goals contradiction

theorem SpellsString.readOpening {s : String} {text : List Char} (h : SpellsString s text)
    (rest : List Char) : readOpening (text ++ rest) = .ok (.string s, rest) := by
  obtain ⟨inside, hinside, rfl⟩ := h
  have hread : readString (inside ++ '"' :: rest) = .ok (s, rest) :=
    readString_eq_ok_iff.mpr ⟨inside, hinside, rfl⟩
  rw [List.cons_append, List.append_assoc, List.singleton_append, readOpening_quote, hread]
  rfl

/-- A number is read behind its minus sign, if it has one. -/
theorem readOpening_number {cs : List Char} (h : isNumber cs = true) :
    ∃ negative ds, isMagnitude ds = true ∧ cs = (if negative then ['-'] else []) ++ ds ∧
      ∀ rest, readOpening (cs ++ rest) =
        (readNumber negative (ds ++ rest) >>= fun p => .ok (Opening.number p.1, p.2)) := by
  unfold isNumber at h
  split at h
  case h_1 ds => exact ⟨true, ds, h, rfl, fun rest => readOpening_minus (ds ++ rest)⟩
  case h_2 =>
    refine ⟨false, cs, h, rfl, fun rest => ?_⟩
    have hwhole := (Bool.and_eq_true_iff.mp h).1
    obtain ⟨hne, hdigits, -⟩ := digits_of_isWhole hwhole
    cases cs with
    | nil => contradiction
    | cons d ds =>
      refine readOpening_digit ?_ (ds ++ rest)
      by_contra hd
      exact hne (List.takeWhile_cons_of_neg hd)

/-- A number opens as a natural number exactly if it is the spelling of one that fits into 64
bits. -/
theorem readOpening_eq_natural_iff {literal : String} {k : Nat}
    (h : isNumber literal.toList = true) (hrest : Ends rest) :
    readOpening (literal.toList ++ rest) = .ok (.number (.integer k), rest') ↔
      rest' = rest ∧ literal = k.repr ∧ k < UInt64.size := by
  obtain ⟨negative, ds, hds, hliteral, hread⟩ := readOpening_number h
  rw [hread, bind_eq_ok]
  constructor
  · rintro ⟨⟨n, behind⟩, hnumber, hopen⟩
    cases hopen
    obtain ⟨rfl, rfl, rfl, hfits⟩ := (readNumber_eq_natural_iff hds hrest).mp hnumber
    exact ⟨rfl, String.toList_inj.mp hliteral, hfits⟩
  · rintro ⟨rfl, rfl, hfits⟩
    -- No minus sign is among the digits of a natural number.
    obtain rfl : negative = false := by
      rw [← Bool.not_eq_true]
      rintro rfl
      have hdigits := List.all_eq_true.mp (Bool.and_eq_true_iff.mp (isDigits_repr k)).2
      exact absurd (hdigits '-' (hliteral ▸ List.mem_cons_self)) (by decide)
    have hnumber := (readNumber_eq_natural_iff hds hrest).mpr ⟨rfl, rfl, hliteral.symm, hfits⟩
    exact ⟨_, hnumber, rfl⟩

/-- A number opens as a number. -/
theorem exists_number_of_readOpening {cs : List Char} {found : Opening} (h : isNumber cs = true)
    (hopen : readOpening (cs ++ rest) = .ok (found, rest')) : ∃ n, found = .number n := by
  obtain ⟨negative, ds, -, -, hread⟩ := readOpening_number h
  rw [hread] at hopen
  obtain ⟨p, -, hp⟩ := bind_eq_ok.mp hopen
  cases hp
  exact ⟨p.1, rfl⟩

end UsageScan.Json
