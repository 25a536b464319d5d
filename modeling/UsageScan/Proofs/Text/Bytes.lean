import UsageScan.Proofs.Text.Cut
import Mathlib.Order.Bounds.Basic
/-!
# Texts as bytes

A search that goes through the bytes of a text does not know where characters begin. It finds the
bytes of some characters only where those characters stand all the same: the first byte of a
character is a first byte nowhere else, and the bytes from there on tell which character it is.

## Main definitions

* `Text.utf8` — the bytes of a text
* `Bytes.find?`, `Bytes.findLast?` — the first occurrence of some bytes, and the last one of a byte
* `Bytes.OccursAt` — some bytes stand at an index

## Main results

* `Bytes.find?_ahead_eq_some_iff` — a search from an index on finds the least one at which the bytes
  stand
* `Text.utf8_prefix_iff` — a text begins with another exactly if its bytes begin with those of the
  other
* `Text.find?_utf8` — searching the bytes of a text finds the cut of the text
* `Text.findLast?_utf8_append`, `Text.count_utf8` — the last one of some characters, and their number
-/

set_option autoImplicit false

namespace UsageScan

namespace Bytes

/-- The least index at which `needle` occurs among some bytes. -/
def find? (needle : List UInt8) : List UInt8 → Option Nat
  | [] => if needle = [] then some 0 else none
  | b :: bs => if needle.isPrefixOf (b :: bs) then some 0 else (find? needle bs).map (· + 1)

/-- The greatest index at which a byte stands among some bytes. -/
def findLast? (byte : UInt8) : List UInt8 → Option Nat
  | [] => none
  | b :: bs =>
    match findLast? byte bs with
    | some i => some (i + 1)
    | none => if b = byte then some 0 else none

theorem findLast?_of_not_mem {byte : UInt8} {bs : List UInt8} (h : byte ∉ bs) :
    findLast? byte bs = none := by
  induction bs with
  | nil => rfl
  | cons b bs ih =>
    obtain ⟨hb, hbs⟩ := not_or.mp (mt List.mem_cons.mpr h)
    rw [findLast?, ih hbs, if_neg (Ne.symm hb)]

/-- The last occurrence of a byte is the one that no other comes behind. -/
theorem findLast?_append_cons {byte : UInt8} (as : List UInt8) {bs : List UInt8} (h : byte ∉ bs) :
    findLast? byte (as ++ byte :: bs) = some as.length := by
  induction as with
  | nil => rw [List.nil_append, findLast?, findLast?_of_not_mem h, if_pos rfl, List.length_nil]
  | cons a as ih => rw [List.cons_append, findLast?, ih, List.length_cons]

/-- Bytes at which nothing can begin are passed over. -/
theorem find?_append {b : UInt8} {needle as : List UInt8} (has : b ∉ as) (bs : List UInt8) :
    find? (b :: needle) (as ++ bs) = (find? (b :: needle) bs).map (· + as.length) := by
  induction as with
  | nil => exact Option.map_id'.symm
  | cons a as ih =>
    obtain ⟨ha, has⟩ := not_or.mp (mt List.mem_cons.mpr has)
    have hstart : ¬ (b :: needle).isPrefixOf (a :: (as ++ bs)) = true := by
      simp [List.isPrefixOf, ha]
    rw [List.cons_append, find?, if_neg hstart, ih has, Option.map_map]
    congr 1

/-! ### Occurrences -/

/-- At an index, some bytes go on with `needle`. -/
def OccursAt (needle bs : List UInt8) (i : Nat) : Prop :=
  i ≤ bs.length ∧ needle <+: bs.drop i

section Occurrences

variable {needle bs : List UInt8} {i : Nat}

theorem occursAt_zero_iff : OccursAt needle bs 0 ↔ needle <+: bs := by
  simp [OccursAt]

theorem occursAt_append_iff (as : List UInt8) :
    OccursAt needle (as ++ bs) (as.length + i) ↔ OccursAt needle bs i := by
  rw [OccursAt, OccursAt, List.length_append, Nat.add_le_add_iff_left, List.drop_length_add_append]

theorem occursAt_cons_succ_iff {b : UInt8} :
    OccursAt needle (b :: bs) (i + 1) ↔ OccursAt needle bs i := by
  simp [OccursAt]

/-- A single byte occurs where it stands. -/
theorem occursAt_singleton_iff {b : UInt8} : OccursAt [b] bs i ↔ bs[i]? = some b := by
  rw [← List.head?_drop, OccursAt]
  constructor
  · rintro ⟨-, more, hmore⟩
    rw [← hmore]
    rfl
  · intro h
    obtain ⟨more, hmore⟩ := List.head?_eq_some_iff.mp h
    refine ⟨?_, more, hmore.symm⟩
    by_contra hlt
    rw [List.drop_eq_nil_of_le (Nat.le_of_not_le hlt)] at hmore
    cases hmore

/-- What is found is the least index at which the bytes stand. -/
theorem isLeast_of_find? (h : find? needle bs = some i) : IsLeast {j | OccursAt needle bs j} i := by
  induction bs generalizing i with
  | nil =>
    rw [find?, Option.ite_none_right_eq_some] at h
    obtain ⟨rfl, hi⟩ := h
    cases hi
    exact ⟨occursAt_zero_iff.mpr List.prefix_rfl, fun _ _ => Nat.zero_le _⟩
  | cons b bs ih =>
    rw [find?] at h
    split at h
    case isTrue hstart =>
      cases h
      exact ⟨occursAt_zero_iff.mpr (List.isPrefixOf_iff_prefix.mp hstart), fun _ _ => Nat.zero_le _⟩
    case isFalse hstart =>
      obtain ⟨j, hj, rfl⟩ := Option.map_eq_some_iff.mp h
      refine ⟨occursAt_cons_succ_iff.mpr (ih hj).1, ?_⟩
      -- The bytes do not stand at the front, and further on `j` is the least index.
      rintro (_ | k) hk
      · exact absurd (List.isPrefixOf_iff_prefix.mpr (occursAt_zero_iff.mp hk)) hstart
      · exact Nat.succ_le_succ ((ih hj).2 (occursAt_cons_succ_iff.mp hk))

/-- Bytes that stand somewhere are found. -/
theorem exists_find?_of_occursAt (h : OccursAt needle bs i) : ∃ j, find? needle bs = some j := by
  induction bs generalizing i with
  | nil =>
    obtain ⟨-, hprefix⟩ := h
    rw [List.drop_nil, List.prefix_nil] at hprefix
    exact ⟨0, if_pos hprefix⟩
  | cons b bs ih =>
    rw [find?]
    split
    · exact ⟨0, rfl⟩
    · next hstart =>
      cases i with
      | zero => exact absurd (List.isPrefixOf_iff_prefix.mpr (occursAt_zero_iff.mp h)) hstart
      | succ i =>
        obtain ⟨j, hj⟩ := ih (occursAt_cons_succ_iff.mp h)
        exact ⟨j + 1, by rw [hj, Option.map_some]⟩

section Ahead

variable (needle as bs : List UInt8)

/-- A search from an index on finds no bytes exactly if they do not stand there or further on. -/
theorem find?_ahead_eq_none_iff : (find? needle bs).map (as.length + ·) = none ↔
    ∀ i, as.length ≤ i → ¬ OccursAt needle (as ++ bs) i := by
  rw [Option.map_eq_none_iff]
  constructor
  · intro h i hle hoccurs
    obtain ⟨k, rfl⟩ := Nat.exists_eq_add_of_le hle
    obtain ⟨j, hj⟩ := exists_find?_of_occursAt ((occursAt_append_iff as).mp hoccurs)
    rw [h] at hj
    cases hj
  · intro h
    cases hfind : find? needle bs with
    | none => rfl
    | some j =>
      have hoccurs := (occursAt_append_iff as).mpr (isLeast_of_find? hfind).1
      exact absurd hoccurs (h _ (Nat.le_add_right ..))

/-- A search from an index on finds the least index at which the bytes stand there or further
on. -/
theorem find?_ahead_eq_some_iff {i : Nat} : (find? needle bs).map (as.length + ·) = some i ↔
    IsLeast {j | as.length ≤ j ∧ OccursAt needle (as ++ bs) j} i := by
  have hleast {j : Nat} (hj : find? needle bs = some j) :
      IsLeast {j | as.length ≤ j ∧ OccursAt needle (as ++ bs) j} (as.length + j) := by
    refine ⟨⟨Nat.le_add_right .., (occursAt_append_iff as).mpr (isLeast_of_find? hj).1⟩, ?_⟩
    rintro k ⟨hle, hk⟩
    obtain ⟨k, rfl⟩ := Nat.exists_eq_add_of_le hle
    exact Nat.add_le_add_left ((isLeast_of_find? hj).2 ((occursAt_append_iff as).mp hk)) _
  constructor
  · intro h
    obtain ⟨j, hj, rfl⟩ := Option.map_eq_some_iff.mp h
    exact hleast hj
  · intro h
    cases hfind : find? needle bs with
    | none =>
      have hnone := (find?_ahead_eq_none_iff needle as bs).mp (Option.map_eq_none_iff.mpr hfind)
      exact absurd h.1.2 (hnone i h.1.1)
    | some j => rw [Option.map_some, (hleast hfind).unique h]

end Ahead

end Occurrences

end Bytes

namespace Text

/-- The bytes of a text. -/
def utf8 (cs : List Char) : List UInt8 :=
  cs.flatMap String.utf8EncodeChar

theorem utf8_cons (c : Char) (cs : List Char) :
    utf8 (c :: cs) = String.utf8EncodeChar c ++ utf8 cs :=
  List.flatMap_cons

theorem utf8_append (as bs : List Char) : utf8 (as ++ bs) = utf8 as ++ utf8 bs :=
  List.flatMap_append

theorem length_utf8 (cs : List Char) : (utf8 cs).length = size cs := by
  induction cs with
  | nil => rfl
  | cons c cs ih => rw [utf8_cons, List.length_append, ih, String.length_utf8EncodeChar, size_cons]

/-! ### Characters of one byte -/

/-- Whether a character takes one byte. -/
def IsAscii (c : Char) : Prop :=
  c.toNat < 128

instance : DecidablePred IsAscii := fun c => inferInstanceAs (Decidable (c.toNat < 128))

/-- The byte of a character that takes one byte. -/
def byte (c : Char) : UInt8 :=
  .ofNat c.toNat

section Ascii

variable {a c : Char}

theorem utf8EncodeChar_of_isAscii (h : IsAscii a) : String.utf8EncodeChar a = [byte a] := by
  have hle : a.val.toNat ≤ 127 := Nat.le_of_lt_succ h
  simp only [String.utf8EncodeChar, if_pos hle]
  rfl

theorem toNat_byte (h : IsAscii a) : (byte a).toNat = a.toNat := by
  have hlt : a.toNat < 128 := h
  rw [byte, UInt8.toNat_ofNat']
  omega

/-- All bytes of a longer character are greater than those of characters of one byte. -/
theorem le_of_mem_utf8EncodeChar (h : ¬ IsAscii c) {b : UInt8}
    (hb : b ∈ String.utf8EncodeChar c) : 128 ≤ b.toNat := by
  have hlong : ¬ c.val.toNat ≤ 127 := fun hle => h (Nat.lt_succ_of_le hle)
  simp only [String.utf8EncodeChar, if_neg hlong] at hb
  split at hb
  · simp only [List.mem_cons, List.not_mem_nil, or_false] at hb
    rcases hb with rfl | rfl <;> rw [UInt8.toNat_ofNat'] <;> omega
  split at hb
  · simp only [List.mem_cons, List.not_mem_nil, or_false] at hb
    rcases hb with rfl | rfl | rfl <;> rw [UInt8.toNat_ofNat'] <;> omega
  · simp only [List.mem_cons, List.not_mem_nil, or_false] at hb
    rcases hb with rfl | rfl | rfl | rfl <;> rw [UInt8.toNat_ofNat'] <;> omega

/-- The byte of a character of one byte is no byte of another character. -/
theorem byte_notMem_utf8EncodeChar (ha : IsAscii a) (hc : c ≠ a) :
    byte a ∉ String.utf8EncodeChar c := by
  intro hmem
  by_cases hascii : IsAscii c
  · rw [utf8EncodeChar_of_isAscii hascii, List.mem_singleton] at hmem
    have hvalue := congrArg UInt8.toNat hmem
    rw [toNat_byte ha, toNat_byte hascii] at hvalue
    exact hc (Char.toNat_inj.mp hvalue.symm)
  · have hle := le_of_mem_utf8EncodeChar hascii hmem
    rw [toNat_byte ha] at hle
    exact absurd ha (Nat.not_lt.mpr hle)

theorem byte_notMem_utf8 (ha : IsAscii a) {cs : List Char} (h : a ∉ cs) : byte a ∉ utf8 cs := by
  intro hmem
  obtain ⟨c, hc, hbyte⟩ := List.mem_flatMap.mp hmem
  exact byte_notMem_utf8EncodeChar ha (fun heq => h (heq ▸ hc)) hbyte

/-- The byte of a character of one byte stands as often as the character. -/
theorem count_utf8 (ha : IsAscii a) (cs : List Char) : (utf8 cs).count (byte a) = cs.count a := by
  induction cs with
  | nil => rfl
  | cons c cs ih =>
    rw [utf8_cons, List.count_append, ih]
    by_cases hc : c = a
    · rw [hc, utf8EncodeChar_of_isAscii ha, List.count_singleton_self, List.count_cons_self,
        Nat.add_comm]
    · rw [List.count_eq_zero.mpr (byte_notMem_utf8EncodeChar ha hc), List.count_cons_of_ne hc,
        Nat.zero_add]

/-- The last occurrence of a character of one byte is found behind what comes before it. -/
theorem findLast?_utf8_append (ha : IsAscii a) (as : List Char) {bs : List Char} (h : a ∉ bs) :
    Bytes.findLast? (byte a) (utf8 (as ++ a :: bs)) = some (size as) := by
  rw [utf8_append, utf8_cons, utf8EncodeChar_of_isAscii ha, List.singleton_append,
    Bytes.findLast?_append_cons _ (byte_notMem_utf8 ha h), length_utf8]

end Ascii

/-! ### Characters of any size -/

section Search

variable {as bs : List Char} {a b : Char}

/-- The first byte of a character is told from the others. -/
theorem exists_utf8EncodeChar_eq_cons (c : Char) : ∃ first more,
    String.utf8EncodeChar c = first :: more ∧ first.IsUTF8FirstByte ∧
      ∀ b ∈ more, ¬ b.IsUTF8FirstByte := by
  have hfirst {i : Nat} (hi : i < (String.utf8EncodeChar c).length) :
      (String.utf8EncodeChar c)[i].IsUTF8FirstByte ↔ i = 0 :=
    UInt8.isUTF8FirstByte_getElem_utf8EncodeChar
  obtain ⟨first, more, hbytes⟩ := List.exists_cons_of_ne_nil (String.utf8EncodeChar_ne_nil (c := c))
  simp only [hbytes] at hfirst
  refine ⟨first, more, hbytes, (hfirst (Nat.zero_lt_succ _)).mpr rfl, ?_⟩
  intro b hb
  obtain ⟨i, hi, rfl⟩ := List.mem_iff_getElem.mp hb
  exact fun h => Nat.succ_ne_zero i ((hfirst (Nat.succ_lt_succ hi)).mp h)

/-- The bytes of a character tell which one it is, whatever comes behind them. -/
theorem eq_of_utf8EncodeChar_append {xs ys : List UInt8}
    (h : String.utf8EncodeChar a ++ xs = String.utf8EncodeChar b ++ ys) : a = b := by
  have hdecode (c : Char) (zs : List UInt8) :
      ByteArray.utf8DecodeChar? (String.utf8EncodeChar c ++ zs).toByteArray 0 = some c := by
    rw [List.toByteArray_append, ← List.utf8Encode_singleton]
    exact List.utf8DecodeChar?_utf8Encode_singleton_append
  apply Option.some.inj
  rw [← hdecode a xs, h, hdecode b ys]

/-- A text begins with another exactly if its bytes begin with those of the other. -/
theorem utf8_prefix_iff : utf8 as <+: utf8 bs ↔ as <+: bs := by
  induction as generalizing bs with
  | nil => exact iff_of_true List.nil_prefix List.nil_prefix
  | cons a as ih =>
    obtain ⟨first, more, hbytes, -, -⟩ := exists_utf8EncodeChar_eq_cons a
    cases bs with
    | nil => simp [utf8, hbytes]
    | cons b bs =>
      rw [utf8_cons, utf8_cons, List.cons_prefix_cons, ← ih]
      constructor
      · intro h
        obtain ⟨tail, htail⟩ := h
        rw [List.append_assoc] at htail
        obtain rfl := eq_of_utf8EncodeChar_append htail
        exact ⟨rfl, tail, List.append_cancel_left htail⟩
      · rintro ⟨rfl, h⟩
        exact (List.prefix_append_right_inj _).mpr h

/-- A search through the bytes of a text finds the cut of the text. -/
theorem find?_utf8 (needle cs : List Char) :
    Bytes.find? (utf8 needle) (utf8 cs) = (cut? needle cs).map fun parts => size parts.1 := by
  induction cs with
  | nil =>
    have hempty : utf8 needle = [] ↔ needle = [] := by
      rw [← List.prefix_nil, ← List.prefix_nil, ← utf8_prefix_iff]
      rfl
    have hnil : utf8 [] = [] := rfl
    simp only [hnil, Bytes.find?, cut?, hempty]
    split <;> rfl
  | cons c cs ih =>
    obtain ⟨first, more, hbytes, -, hmore⟩ := exists_utf8EncodeChar_eq_cons c
    have hstart : (utf8 needle).isPrefixOf (utf8 (c :: cs)) = needle.isPrefixOf (c :: cs) := by
      rw [Bool.eq_iff_iff, List.isPrefixOf_iff_prefix, List.isPrefixOf_iff_prefix, utf8_prefix_iff]
    have hutf8 : utf8 (c :: cs) = first :: (more ++ utf8 cs) := by
      rw [utf8_cons, hbytes, List.cons_append]
    rw [cut?, hutf8, Bytes.find?, ← hutf8, hstart]
    split
    · rfl
    · next hneedle =>
      -- What does not begin here has a first byte, and none of the bytes behind is one.
      obtain ⟨d, needle, rfl⟩ : ∃ d ds, needle = d :: ds := by
        apply List.exists_cons_of_ne_nil
        rintro rfl
        exact hneedle rfl
      obtain ⟨lead, others, hlead, hfirst, -⟩ := exists_utf8EncodeChar_eq_cons d
      have hnot : lead ∉ more := fun hmem => hmore lead hmem hfirst
      have hsize : c.utf8Size = more.length + 1 := by
        rw [← String.length_utf8EncodeChar, hbytes, List.length_cons]
      rw [utf8_cons, hlead, List.cons_append] at ih ⊢
      rw [Bytes.find?_append hnot, ih]
      simp only [Option.map_map, Function.comp_def, size_cons, hsize]
      congr 1
      funext parts
      omega

end Search

end Text

end UsageScan
