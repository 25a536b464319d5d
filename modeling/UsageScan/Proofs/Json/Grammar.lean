import UsageScan.Json
import UsageScan.Json.Opening
/-!
# The grammar of JSON texts

Which texts spell a value. A value can be spelled in many ways: blanks may stand around the items of
an array and around the parts of a member, and a character of a string may be written as it is or
behind a backslash. The grammar is about texts alone, it does not say how they are read.

## Main definitions

* `Json.SpellsChar`, `Json.SpellsString` — the texts of a character in a string, and of a string
* `Json.isNumber` — the texts of numbers
* `Json.Listed` — texts with commas between them
* `Json.Spells` — the texts of a value
* `Json.IsDocument` — a value with nothing but blanks around it

## Main results

* `Json.solid_of_isNumber` — no delimiter stands in a number
* `Json.Spells.opens` — the text of a value begins with no delimiter
-/

set_option autoImplicit false

namespace UsageScan.Json

/-- Nothing but blanks. -/
def Blanks (cs : List Char) : Prop :=
  ∀ c ∈ cs, isBlank c

instance (cs : List Char) : Decidable (Blanks cs) :=
  List.decidableBAll (fun c => isBlank c = true) cs

theorem Blanks.nil : Blanks [] := by
  intro c hc
  cases hc

/-! ### Strings -/

/-- The number that four hexadecimal digits make. -/
def hexNumber? : List Char → Option Nat
  | [a, b, c, d] => do
    let a ← hexValue? a
    let b ← hexValue? b
    let c ← hexValue? c
    let d ← hexValue? d
    some (((a * 16 + b) * 16 + c) * 16 + d)
  | _ => none

/-- What stands behind the backslash for a character. -/
inductive Escapes : Char → List Char → Prop
  /-- A letter that stands for the character. -/
  | letter {c l : Char} : escaped? l = some c → Escapes c [l]
  /-- Its code point, which is no half of a surrogate pair. -/
  | codePoint {digits : List Char} {n : Nat} : hexNumber? digits = some n →
      isLowSurrogate n = false → isHighSurrogate n = false → Escapes (.ofNat n) ('u' :: digits)
  /-- The two halves of a surrogate pair. -/
  | pair {digits digits' : List Char} {high low : Nat} : hexNumber? digits = some high →
      isHighSurrogate high = true → hexNumber? digits' = some low → isLowSurrogate low = true →
      Escapes (pairChar high low) ('u' :: (digits ++ '\\' :: 'u' :: digits'))

/-- How a character is written inside a string. -/
inductive SpellsChar : Char → List Char → Prop
  /-- As it is, if it is no control character and has no meaning of its own there. -/
  | plain {c : Char} : c ≠ '"' → c ≠ '\\' → 0x20 ≤ c.toNat → SpellsChar c [c]
  | escaped {c : Char} {text : List Char} : Escapes c text → SpellsChar c ('\\' :: text)

/-- How several characters are written inside a string. -/
inductive SpellsChars : List Char → List Char → Prop
  | nil : SpellsChars [] []
  | cons {c : Char} {s text texts : List Char} : SpellsChar c text → SpellsChars s texts →
      SpellsChars (c :: s) (text ++ texts)

/-- The texts of a string. -/
def SpellsString (s : String) (text : List Char) : Prop :=
  ∃ inside, SpellsChars s.toList inside ∧ text = '"' :: (inside ++ ['"'])

/-! ### Numbers -/

/-- One or more digits. -/
def isDigits (cs : List Char) : Bool :=
  !cs.isEmpty && cs.all Char.isDigit

/-- Digits, behind a sign if there is one. -/
def isSignedDigits : List Char → Bool
  | '-' :: cs => isDigits cs
  | '+' :: cs => isDigits cs
  | cs => isDigits cs

/-- An exponent, or nothing. -/
def isExponent : List Char → Bool
  | [] => true
  | c :: cs => (c == 'e' || c == 'E') && isSignedDigits cs

/-- What stands behind the whole part of a number: a fraction if there is one, and an exponent if
there is one. -/
def isFraction : List Char → Bool
  | '.' :: cs => isDigits (cs.takeWhile Char.isDigit) && isExponent (cs.dropWhile Char.isDigit)
  | cs => isExponent cs

/-- The whole part of a number. A zero is not followed by further digits. -/
def isWhole : List Char → Bool
  | [] => false
  | ['0'] => true
  | c :: cs => c != '0' && (c :: cs).all Char.isDigit

/-- A number without a sign. -/
def isMagnitude (cs : List Char) : Bool :=
  isWhole (cs.takeWhile Char.isDigit) && isFraction (cs.dropWhile Char.isDigit)

/-- A number. -/
def isNumber : List Char → Bool
  | '-' :: cs => isMagnitude cs
  | cs => isMagnitude cs

/-! ### Lists -/

/-- Texts with commas between them, and blanks around each of them. Where there are none, there may
be blanks. -/
inductive Listed : List (List Char) → List Char → Prop
  | none {blanks : List Char} : Blanks blanks → Listed [] blanks
  | one {before text after : List Char} : Blanks before → Blanks after →
      Listed [text] (before ++ text ++ after)
  | more {before text after next body : List Char} {texts : List (List Char)} : Blanks before →
      Blanks after → Listed (next :: texts) body →
      Listed (text :: next :: texts) (before ++ text ++ after ++ ',' :: body)

/-- A colon with blanks around it. -/
def IsColon (cs : List Char) : Prop :=
  ∃ before after, Blanks before ∧ Blanks after ∧ cs = before ++ ':' :: after

/-- A member of an object with its text. -/
structure Member where
  name : String
  nameText : List Char
  colon : List Char
  value : Json
  valueText : List Char

namespace Member

/-- The text of a member. -/
def text (m : Member) : List Char :=
  m.nameText ++ m.colon ++ m.valueText

/-- A member without its text. -/
def toPair (m : Member) : String × Json :=
  (m.name, m.value)

end Member

/-! ### Values -/

/-- The texts of a value. -/
inductive Spells : Json → List Char → Prop
  | null : Spells .null ['n', 'u', 'l', 'l']
  | true : Spells (.bool true) ['t', 'r', 'u', 'e']
  | false : Spells (.bool false) ['f', 'a', 'l', 's', 'e']
  | number {literal : String} : isNumber literal.toList → Spells (.number literal) literal.toList
  | string {s : String} {text : List Char} : SpellsString s text → Spells (.string s) text
  | array {items : List (Json × List Char)} {body : List Char} :
      (∀ item ∈ items, Spells item.1 item.2) → Listed (items.map Prod.snd) body →
      Spells (.array (items.map Prod.fst)) ('[' :: (body ++ [']']))
  | object {members : List Member} {body : List Char} :
      (∀ m ∈ members, SpellsString m.name m.nameText) → (∀ m ∈ members, IsColon m.colon) →
      (∀ m ∈ members, Spells m.value m.valueText) → Listed (members.map Member.text) body →
      Spells (.object (members.map Member.toPair)) ('{' :: (body ++ ['}']))

/-- The text of a value with nothing but blanks around it. -/
def IsDocument (v : Json) (cs : List Char) : Prop :=
  ∃ before text after, Blanks before ∧ Blanks after ∧ Spells v text ∧ cs = before ++ text ++ after

/-! ### Where texts begin and end -/

/-- Whether a character may stand behind a value. -/
def isDelimiter (c : Char) : Bool :=
  isBlank c || c == ',' || c == ']' || c == '}'

/-- A text that begins like a value or a member. -/
def Opens (cs : List Char) : Prop :=
  ∃ c rest, cs = c :: rest ∧ isDelimiter c = false

/-- A text that may stand behind a value. -/
def Ends (cs : List Char) : Prop :=
  ∀ c ∈ cs.head?, isDelimiter c = true

theorem Opens.append {cs : List Char} (h : Opens cs) (ds : List Char) : Opens (cs ++ ds) := by
  obtain ⟨c, rest, rfl, hc⟩ := h
  exact ⟨c, rest ++ ds, rfl, hc⟩

theorem SpellsString.opens {s : String} {text : List Char} (h : SpellsString s text) :
    Opens text := by
  obtain ⟨inside, -, rfl⟩ := h
  exact ⟨'"', _, rfl, by decide⟩

section Number

/-- No delimiter among some characters. -/
def Solid (cs : List Char) : Prop :=
  ∀ c ∈ cs, isDelimiter c = false

instance (cs : List Char) : Decidable (Solid cs) :=
  List.decidableBAll (fun c => isDelimiter c = false) cs

variable {cs : List Char}

theorem Solid.append {ds : List Char} (hcs : Solid cs) (hds : Solid ds) : Solid (cs ++ ds) := by
  intro c hc
  exact (List.mem_append.mp hc).elim (hcs c) (hds c)

theorem Solid.cons {c : Char} (hc : isDelimiter c = false) (hcs : Solid cs) : Solid (c :: cs) :=
  List.forall_mem_cons.mpr ⟨hc, hcs⟩

theorem isDelimiter_of_isDigit {c : Char} (h : c.isDigit = true) : isDelimiter c = false := by
  rw [← Bool.not_eq_true]
  intro hc
  simp only [isDelimiter, isBlank, Bool.or_eq_true, beq_iff_eq] at hc
  rcases hc with (((((rfl | rfl) | rfl) | rfl) | rfl) | rfl) | rfl <;> exact absurd h (by decide)

theorem solid_takeWhile_isDigit (cs : List Char) : Solid (cs.takeWhile Char.isDigit) := by
  intro c hc
  exact isDelimiter_of_isDigit (List.all_eq_true.mp List.all_takeWhile c hc)

theorem solid_of_isDigits (h : isDigits cs = true) : Solid cs := by
  intro c hc
  simp only [isDigits, Bool.and_eq_true, List.all_eq_true] at h
  exact isDelimiter_of_isDigit (h.2 c hc)

theorem solid_of_isSignedDigits (h : isSignedDigits cs = true) : Solid cs := by
  unfold isSignedDigits at h
  split at h
  · exact .cons (by decide) (solid_of_isDigits h)
  · exact .cons (by decide) (solid_of_isDigits h)
  · exact solid_of_isDigits h

theorem solid_of_isExponent (h : isExponent cs = true) : Solid cs := by
  unfold isExponent at h
  split at h
  case h_1 =>
    intro c hc
    cases hc
  case h_2 c cs =>
    obtain ⟨hc, hcs⟩ := Bool.and_eq_true_iff.mp h
    refine .cons ?_ (solid_of_isSignedDigits hcs)
    rcases Bool.or_eq_true_iff.mp hc with he | he <;> rw [eq_of_beq he] <;> decide

theorem solid_of_isFraction (h : isFraction cs = true) : Solid cs := by
  unfold isFraction at h
  split at h
  case h_1 cs =>
    obtain ⟨-, hexponent⟩ := Bool.and_eq_true_iff.mp h
    rw [← List.takeWhile_append_dropWhile (p := Char.isDigit) (l := cs)]
    exact .cons (by decide) (.append (solid_takeWhile_isDigit cs) (solid_of_isExponent hexponent))
  case h_2 => exact solid_of_isExponent h

theorem solid_of_isMagnitude (h : isMagnitude cs = true) : Solid cs := by
  obtain ⟨-, hfraction⟩ := Bool.and_eq_true_iff.mp h
  rw [← List.takeWhile_append_dropWhile (p := Char.isDigit) (l := cs)]
  exact .append (solid_takeWhile_isDigit cs) (solid_of_isFraction hfraction)

/-- No delimiter stands in a number. -/
theorem solid_of_isNumber (h : isNumber cs = true) : Solid cs := by
  unfold isNumber at h
  split at h
  · exact .cons (by decide) (solid_of_isMagnitude h)
  · exact solid_of_isMagnitude h

theorem ne_nil_of_isNumber (h : isNumber cs = true) : cs ≠ [] := by
  rintro rfl
  exact absurd h (by decide)

end Number

/-- The text of a value begins with no delimiter. -/
theorem Spells.opens {v : Json} {text : List Char} (h : Spells v text) : Opens text := by
  cases h with
  | null => exact ⟨'n', _, rfl, by decide⟩
  | true => exact ⟨'t', _, rfl, by decide⟩
  | false => exact ⟨'f', _, rfl, by decide⟩
  | @number literal h =>
    cases hcs : literal.toList with
    | nil => exact absurd hcs (ne_nil_of_isNumber h)
    | cons c cs => exact ⟨c, cs, rfl, solid_of_isNumber h c (hcs ▸ List.mem_cons_self)⟩
  | string h => exact h.opens
  | array => exact ⟨'[', _, rfl, by decide⟩
  | object => exact ⟨'{', _, rfl, by decide⟩

end UsageScan.Json
