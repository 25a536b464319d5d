import UsageScan.Outlet
/-!
# Writing piece by piece

`Outlet.write` says at once what becomes of some bytes. An outlet itself only answers offers: it takes
some of the bytes it is offered, or it refuses them. So what is to be written is offered again and
again, each time without what has been taken, until nothing is left or an offer is refused. What is
made of several pieces is written one piece after the other. None of this can be seen in the end: how
an outlet splits what it is offered does not matter, nor how what is written is divided into pieces.

## Main definitions

* `Outlet.Splitting` — how many of the bytes that it is offered an outlet takes at once
* `Outlet.offer`, `Outlet.offerAll` — one offer, and offering until nothing is left
* `Outlet.writePieces` — writing pieces in order until one cannot be written

## Main results

* `Outlet.write_append_of_none`, `Outlet.write_append_of_some` — writing two things in a row
* `Outlet.offerAll_eq_write`, `Outlet.writePieces_eq_write` — only all the bytes matter
-/

set_option autoImplicit false

namespace UsageScan

namespace Outlet

/-- How many bytes an outlet takes at once. It may depend on all that the outlet has taken before. -/
structure Splitting where
  /-- How many bytes are taken of those that are offered and fit. -/
  taken : Outlet → Nat → Nat
  taken_pos (o : Outlet) {n : Nat} : 0 < n → 0 < taken o n
  taken_le (o : Outlet) (n : Nat) : taken o n ≤ n

/-- Takes all that fits. -/
def Splitting.greedy : Splitting where
  taken _ n := n
  taken_pos _ _ h := h
  taken_le _ _ := Nat.le_refl _

/-- The answer to an offer of some bytes, of which there is at least one: how many of them are taken,
or that they are refused. It is refused once. -/
def offer (d : Splitting) (o : Outlet) (bytes : ByteArray) : Option Nat × Outlet :=
  match o.room with
  | none =>
    let n := d.taken o bytes.size
    (some n, { o with written := o.written ++ bytes.extract 0 n })
  | some 0 => (none, { o with room := none })
  | some room =>
    let n := d.taken o (min room bytes.size)
    (some n, { o with written := o.written ++ bytes.extract 0 n, room := some (room - n) })

/-! ### What is written -/

theorem extract_of_size_le {bytes : ByteArray} {n : Nat} (h : bytes.size ≤ n) :
    bytes.extract 0 n = bytes := by
  apply ByteArray.ext
  rw [ByteArray.data_extract]
  exact Array.extract_eq_self_of_le h

/-- An outlet takes the first bytes of what is written, as many as fit. -/
theorem written_write {o : Outlet} {n : Nat} (h : o.room = some n) (bytes : ByteArray) :
    (o.write bytes).2.written = o.written ++ bytes.extract 0 n := by
  simp only [write, h]
  split
  case isTrue hfits => rw [extract_of_size_le hfits]
  case isFalse => rfl

/-- Writing fails just if not all bytes fit. -/
theorem fault_write {o : Outlet} {n : Nat} (h : o.room = some n) (bytes : ByteArray) :
    (o.write bytes).1 = if bytes.size ≤ n then none else some .closed := by
  simp only [write, h]
  split <;> rfl

@[simp] theorem flushes_write (o : Outlet) (bytes : ByteArray) :
    (o.write bytes).2.flushes = o.flushes := by
  simp only [write]
  split
  · rfl
  · split <;> rfl

/-! ### Two things in a row -/

section Append

variable {o o' : Outlet} {as : ByteArray} (bs : ByteArray)

/-- Behind something that could be written, something is written as if it came first. -/
theorem write_append_of_none (h : o.write as = (none, o')) : o.write (as ++ bs) = o'.write bs := by
  obtain ⟨written, room, flushes⟩ := o
  cases room with
  | none =>
    cases h
    simp only [write, ByteArray.append_assoc]
  | some room =>
    simp only [write] at h
    split at h
    case isFalse => cases h
    case isTrue hfits =>
      cases h
      -- Both fit together just if the second fits into the room that the first leaves.
      have hiff : (as ++ bs).size ≤ room ↔ bs.size ≤ room - as.size := by
        rw [ByteArray.size_append]
        omega
      by_cases hboth : bs.size ≤ room - as.size
      · have hroom : room - (as ++ bs).size = room - as.size - bs.size := by
          rw [ByteArray.size_append]
          omega
        simp only [write, if_pos hboth, if_pos (hiff.mpr hboth), hroom, ByteArray.append_assoc]
      · have hpart : (as ++ bs).extract 0 room = as ++ bs.extract 0 (room - as.size) := by
          rw [ByteArray.extract_append, Nat.zero_sub, extract_of_size_le hfits]
        simp only [write, if_neg hboth, if_neg (mt hiff.mp hboth), hpart, ByteArray.append_assoc]

/-- Behind something that could not be written, nothing is written. -/
theorem write_append_of_some {fault : Fault} (h : o.write as = (some fault, o')) :
    o.write (as ++ bs) = (some fault, o') := by
  obtain ⟨written, room, flushes⟩ := o
  cases room with
  | none => cases h
  | some room =>
    simp only [write] at h
    split at h
    case isTrue => cases h
    case isFalse hfits =>
      have hboth : ¬ (as ++ bs).size ≤ room := by
        rw [ByteArray.size_append]
        omega
      have hpart : (as ++ bs).extract 0 room = as.extract 0 room := by
        have hnone : bs.extract 0 (room - as.size) = .empty := by
          rw [Nat.sub_eq_zero_of_le (by omega), ByteArray.extract_same]
        rw [ByteArray.extract_append, Nat.zero_sub, hnone, ByteArray.append_empty]
      simp only [write, if_neg hboth, hpart]
      exact h

end Append

/-! ### Offers -/

section Offer

variable {d : Splitting} {o o' : Outlet} {bytes : ByteArray}

/-- What is taken of an offer is some of it, and it is what would be written. -/
theorem offer_eq_some {n : Nat} (hne : bytes.size ≠ 0) (h : offer d o bytes = (some n, o')) :
    0 < n ∧ n ≤ bytes.size ∧ o.write (bytes.extract 0 n) = (none, o') := by
  have hsize {k : Nat} (hk : k ≤ bytes.size) : (bytes.extract 0 k).size = k := by
    rw [ByteArray.size_extract]
    omega
  obtain ⟨written, room, flushes⟩ := o
  match room with
  | none =>
    cases h
    exact ⟨d.taken_pos _ (Nat.pos_of_ne_zero hne), d.taken_le _ _, rfl⟩
  | some 0 => cases h
  | some (room + 1) =>
    cases h
    have hpos := d.taken_pos ⟨written, some (room + 1), flushes⟩
      (n := min (room + 1) bytes.size) (by omega)
    have hle := d.taken_le ⟨written, some (room + 1), flushes⟩ (min (room + 1) bytes.size)
    have hpart := Nat.le_trans hle (Nat.min_le_right _ _)
    have hfits := Nat.le_trans hle (Nat.min_le_left _ _)
    exact ⟨hpos, hpart, by simp only [write, hsize hpart, if_pos hfits]⟩

/-- An offer is only refused if nothing fits. -/
theorem offer_eq_none (hne : bytes.size ≠ 0) (h : offer d o bytes = (none, o')) :
    o.write bytes = (some .closed, o') := by
  obtain ⟨written, room, flushes⟩ := o
  match room with
  | none => cases h
  | some 0 =>
    cases h
    have hfits : ¬ bytes.size ≤ 0 := by omega
    simp only [write, if_neg hfits, ByteArray.extract_same, ByteArray.append_empty]
  | some (room + 1) => cases h

end Offer

/-- Offers some bytes, and then what is left of them, until nothing is left or an offer is refused. -/
def offerAll (d : Splitting) (o : Outlet) (bytes : ByteArray) : Option Fault × Outlet :=
  if _hne : bytes.size = 0 then (none, o)
  else
    match _h : offer d o bytes with
    | (none, o') => (some .closed, o')
    | (some n, o') => offerAll d o' (bytes.extract n bytes.size)
termination_by bytes.size
decreasing_by
  have hsome := offer_eq_some _hne _h
  rw [ByteArray.size_extract]
  omega

/-- It does not matter how an outlet splits what it is offered. -/
theorem offerAll_eq_write (d : Splitting) (o : Outlet) (bytes : ByteArray) :
    offerAll d o bytes = o.write bytes := by
  induction o, bytes using offerAll.induct d with
  | case1 o bytes hempty =>
    have hwrite : o.write bytes = (none, o) := by
      obtain rfl := ByteArray.size_eq_zero_iff.mp hempty
      obtain ⟨written, room, flushes⟩ := o
      cases room <;> simp [write]
    rw [offerAll, dif_pos hempty, hwrite]
  | case2 o bytes hne o' hoffer =>
    rw [offerAll, dif_neg hne, hoffer, offer_eq_none hne hoffer]
  | case3 o bytes hne n o' hoffer ih =>
    obtain ⟨-, hle, hwrite⟩ := offer_eq_some hne hoffer
    have hbytes : bytes.extract 0 n ++ bytes.extract n bytes.size = bytes := by
      rw [← ByteArray.extract_eq_extract_append_extract n (Nat.zero_le n) hle,
        ByteArray.extract_zero_size]
    have happend := write_append_of_none (bytes.extract n bytes.size) hwrite
    rw [hbytes] at happend
    rw [offerAll, dif_neg hne, hoffer, happend]
    exact ih

/-! ### Pieces -/

/-- Writes the pieces of a text in order, until one of them cannot be written. -/
def writePieces (d : Splitting) (o : Outlet) : List String → Option Fault × Outlet
  | [] => (none, o)
  | piece :: pieces =>
    match offerAll d o piece.toUTF8 with
    | (none, o') => writePieces d o' pieces
    | (some fault, o') => (some fault, o')

/-- It does not matter of which pieces a text is made. -/
theorem writePieces_eq_write (d : Splitting) (o : Outlet) (pieces : List String) :
    writePieces d o pieces = o.write (String.join pieces).toUTF8 := by
  induction pieces generalizing o with
  | nil =>
    have hempty := offerAll_eq_write d o .empty
    rw [offerAll, dif_pos ByteArray.size_empty] at hempty
    exact hempty
  | cons piece pieces ih =>
    have hjoin : (String.join (piece :: pieces)).toUTF8 =
        piece.toUTF8 ++ (String.join pieces).toUTF8 := by
      rw [String.join_cons]
      exact String.toByteArray_append
    rw [writePieces, offerAll_eq_write, hjoin]
    cases hwrite : o.write piece.toUTF8 with
    | mk fault o' =>
      cases fault with
      | none => rw [write_append_of_none _ hwrite, ← ih]
      | some fault => rw [write_append_of_some _ hwrite]

end Outlet

end UsageScan
