/-!
# Byte offsets in a text

A text is a list of characters, but spans and searches count the bytes of its UTF-8 encoding. An
offset is usable only where a character begins or the text ends, so cutting at an offset can fail.

## Main definitions

* `size` — the number of bytes a text takes
* `splitAt?` — cutting a text in two at a byte offset
* `slice?` — the part of a text between two byte offsets
* `findFrom?` — the byte offset of the first occurrence of a text in another

## Main results

* `splitAt?_eq_some_iff` — a cut at an offset succeeds exactly if some first part has that size
-/

set_option autoImplicit false

namespace UsageScan.Text

/-- The number of bytes a text takes in UTF-8. -/
def size : List Char → Nat
  | [] => 0
  | c :: cs => c.utf8Size + size cs

@[simp] theorem size_nil : size [] = 0 := rfl

@[simp] theorem size_cons (c : Char) (cs : List Char) : size (c :: cs) = c.utf8Size + size cs :=
  rfl

@[simp] theorem size_append (as bs : List Char) : size (as ++ bs) = size as + size bs := by
  induction as with
  | nil => simp
  | cons a as ih => simp [ih, Nat.add_assoc]

/-- Moves `bytes` bytes from the front of a text behind the characters in `read`, which are kept
last first. -/
def splitFrom? (read : List Char) : Nat → List Char → Option (List Char × List Char)
  | 0, cs => some (read.reverse, cs)
  | _ + 1, [] => none
  | bytes + 1, c :: cs =>
    if c.utf8Size ≤ bytes + 1 then splitFrom? (c :: read) (bytes + 1 - c.utf8Size) cs else none

/-- Cuts a text in two at a byte offset. There is no cut inside a character or past the end. -/
def splitAt? (bytes : Nat) (cs : List Char) : Option (List Char × List Char) :=
  splitFrom? [] bytes cs

theorem splitFrom?_eq_some_iff {read : List Char} {bytes : Nat} {cs first second : List Char} :
    splitFrom? read bytes cs = some (first, second) ↔
      ∃ part, first = read.reverse ++ part ∧ cs = part ++ second ∧ size part = bytes := by
  induction cs generalizing read bytes with
  | nil =>
    cases bytes with
    | zero =>
      simp only [splitFrom?, Option.some.injEq, Prod.mk.injEq]
      constructor
      · rintro ⟨rfl, rfl⟩
        exact ⟨[], by simp⟩
      · rintro ⟨part, rfl, hcs, -⟩
        obtain ⟨rfl, rfl⟩ := List.append_eq_nil_iff.mp hcs.symm
        simp
    | succ bytes =>
      simp only [splitFrom?, reduceCtorEq, false_iff]
      rintro ⟨part, -, hcs, hsize⟩
      obtain ⟨rfl, -⟩ := List.append_eq_nil_iff.mp hcs.symm
      simp at hsize
  | cons c cs ih =>
    cases bytes with
    | zero =>
      simp only [splitFrom?, Option.some.injEq, Prod.mk.injEq]
      constructor
      · rintro ⟨rfl, rfl⟩
        exact ⟨[], by simp⟩
      · rintro ⟨part, rfl, hcs, hsize⟩
        cases part with
        | nil => simpa using hcs
        | cons d part =>
          have := d.utf8Size_pos
          simp at hsize
          omega
    | succ bytes =>
      simp only [splitFrom?]
      split
      · next h =>
        rw [ih]
        constructor
        · rintro ⟨part, rfl, rfl, hsize⟩
          exact ⟨c :: part, by simp, by simp, by simp [hsize]; omega⟩
        · rintro ⟨part, rfl, hcs, hsize⟩
          cases part with
          | nil => simp at hsize
          | cons d part =>
            obtain ⟨rfl, rfl⟩ : c = d ∧ cs = part ++ second := by simpa using hcs
            exact ⟨part, by simp, rfl, by simp at hsize; omega⟩
      · next h =>
        simp only [reduceCtorEq, false_iff]
        rintro ⟨part, -, hcs, hsize⟩
        cases part with
        | nil => simp at hsize
        | cons d part =>
          obtain ⟨rfl, -⟩ : c = d ∧ cs = part ++ second := by simpa using hcs
          simp at hsize
          omega

/-- A cut at an offset succeeds exactly if some first part of the text has that size. -/
theorem splitAt?_eq_some_iff {bytes : Nat} {cs first second : List Char} :
    splitAt? bytes cs = some (first, second) ↔ cs = first ++ second ∧ size first = bytes := by
  simp [splitAt?, splitFrom?_eq_some_iff]

theorem splitAt?_size_append (first second : List Char) :
    splitAt? (size first) (first ++ second) = some (first, second) :=
  splitAt?_eq_some_iff.mpr ⟨rfl, rfl⟩

/-- The part of a text between two byte offsets, if both lie where a character begins or the text
ends and they are in order. -/
def slice? (cs : List Char) (start stop : Nat) : Option (List Char) :=
  if stop < start then none
  else do
    let (_, behind) ← splitAt? start cs
    let (part, _) ← splitAt? (stop - start) behind
    some part

/-- The least byte offset at which `needle` occurs in a text whose first byte has the given
offset. -/
def findFrom? (needle : List Char) : Nat → List Char → Option Nat
  | offset, [] => if needle = [] then some offset else none
  | offset, c :: cs =>
    if needle.isPrefixOf (c :: cs) then some offset
    else findFrom? needle (offset + c.utf8Size) cs

end UsageScan.Text
