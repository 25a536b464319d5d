import UsageScan.Json.Fault
import UsageScan.Text.Offset
/-!
# Reading JSON strings

The text of a string is read from behind its opening quotation mark through the closing one. A code
point beyond sixteen bits may be written as a pair of escapes, and only pairs are accepted for the
halves of such pairs.

## Main definitions

* `readEscape` — a character written behind a backslash
* `readString` — a whole string
-/

set_option autoImplicit false

namespace UsageScan.Json

/-- The value of a hexadecimal digit. -/
def hexValue? (c : Char) : Option Nat :=
  if c.isDigit then some (c.toNat - '0'.toNat)
  else if 'a' ≤ c ∧ c ≤ 'f' then some (c.toNat - 'a'.toNat + 10)
  else if 'A' ≤ c ∧ c ≤ 'F' then some (c.toNat - 'A'.toNat + 10)
  else none

/-- A number in four hexadecimal digits. The text has broken off if fewer than four bytes are left,
whatever they are. -/
def readHex (cs : List Char) : Except Fault (Nat × List Char) :=
  match cs with
  | a :: b :: c :: d :: rest =>
    match hexValue? a, hexValue? b, hexValue? c, hexValue? d with
    | some a, some b, some c, some d => .ok (((a * 16 + b) * 16 + c) * 16 + d, rest)
    | _, _, _, _ => .error .invalidEscape
  | cs => .error (if Text.size cs < 4 then .ended .string else .invalidEscape)

/-- Whether a number is the first half of a surrogate pair. -/
def isHighSurrogate (n : Nat) : Bool :=
  0xD800 ≤ n && n < 0xDC00

/-- Whether a number is the second half of a surrogate pair. -/
def isLowSurrogate (n : Nat) : Bool :=
  0xDC00 ≤ n && n < 0xE000

/-- The character of a surrogate pair. -/
def pairChar (high low : Nat) : Char :=
  .ofNat (0x10000 + (high - 0xD800) * 0x400 + (low - 0xDC00))

/-- The second half of a surrogate pair, as an escape of its own. -/
def readLowSurrogate (high : Nat) (cs : List Char) : Except Fault (Char × List Char) :=
  match cs with
  | '\\' :: 'u' :: cs =>
    match readHex cs with
    | .error fault => .error fault
    | .ok (low, rest) =>
      if isLowSurrogate low then .ok (pairChar high low, rest) else .error .loneSurrogate
  | [] => .error (.ended .string)
  | ['\\'] => .error (.ended .string)
  | _ => .error .pairCutShort

/-- A character written by its code point. -/
def readCodePoint (cs : List Char) : Except Fault (Char × List Char) :=
  match readHex cs with
  | .error fault => .error fault
  | .ok (n, rest) =>
    if isLowSurrogate n then .error .loneSurrogate
    else if isHighSurrogate n then readLowSurrogate n rest
    else .ok (.ofNat n, rest)

/-- The character that a letter behind a backslash stands for. -/
def escaped? (c : Char) : Option Char :=
  match c with
  | '"' => some '"'
  | '\\' => some '\\'
  | '/' => some '/'
  | 'b' => some '\x08'
  | 'f' => some '\x0c'
  | 'n' => some '\n'
  | 'r' => some '\r'
  | 't' => some '\t'
  | _ => none

/-- A character written behind a backslash. -/
def readEscape (cs : List Char) : Except Fault (Char × List Char) :=
  match cs with
  | [] => .error (.ended .string)
  | c :: cs =>
    match escaped? c with
    | some d => .ok (d, cs)
    | none => if c = 'u' then readCodePoint cs else .error .invalidEscape

theorem length_readHex_lt {cs rest : List Char} {n : Nat} (h : readHex cs = .ok (n, rest)) :
    rest.length < cs.length := by
  unfold readHex at h
  split at h
  · split at h
    · cases h
      simp
      omega
    · contradiction
  · contradiction

theorem length_readLowSurrogate_lt {high : Nat} {cs rest : List Char} {c : Char}
    (h : readLowSurrogate high cs = .ok (c, rest)) : rest.length < cs.length := by
  unfold readLowSurrogate at h
  split at h
  · split at h
    · contradiction
    · next hlow =>
      have := length_readHex_lt hlow
      split at h
      · obtain ⟨-, rfl⟩ := Prod.mk.inj (Except.ok.inj h)
        simp
        omega
      · contradiction
  all_goals contradiction

theorem length_readCodePoint_lt {cs rest : List Char} {c : Char}
    (h : readCodePoint cs = .ok (c, rest)) : rest.length < cs.length := by
  unfold readCodePoint at h
  split at h
  · contradiction
  · next hn =>
    have := length_readHex_lt hn
    repeat' split at h
    · contradiction
    · exact Nat.lt_trans (length_readLowSurrogate_lt h) this
    · cases h
      exact this

theorem length_readEscape_lt {cs rest : List Char} {c : Char} (h : readEscape cs = .ok (c, rest)) :
    rest.length < cs.length := by
  unfold readEscape at h
  split at h
  · contradiction
  · split at h
    · cases h
      simp
    · split at h
      · exact Nat.lt_trans (length_readCodePoint_lt h) (by simp)
      · contradiction

/-- The rest of a string through its closing quotation mark, behind the characters in `read`, which
are kept last first. -/
def readStringFrom (read : List Char) (cs : List Char) : Except Fault (String × List Char) :=
  match cs with
  | [] => .error (.ended .string)
  | c :: cs =>
    if c = '"' then .ok (.ofList read.reverse, cs)
    else if c = '\\' then
      match _h : readEscape cs with
      | .error fault => .error fault
      | .ok (d, rest) => readStringFrom (d :: read) rest
    else if c.toNat < 0x20 then .error .controlCharacter
    else readStringFrom (c :: read) cs
termination_by cs.length
decreasing_by
  · exact Nat.lt_trans (length_readEscape_lt _h) (by simp)
  · simp

/-- A string, from behind its opening quotation mark. -/
def readString (cs : List Char) : Except Fault (String × List Char) :=
  readStringFrom [] cs

end UsageScan.Json
