import UsageScan.Files
import UsageScan.Proofs.Except
/-!
# Stores of files

What a program can rely on when it works on files is little: to read changes nothing, and to write
either replaces one file as a whole or changes nothing. Which paths lead to which files, and what
else a store is made of, is left to the store. The store in memory is one that can be relied on.

## Main definitions

* `FileStore` — a store of files that can be relied on
* `FileStore.Replaced` — a store in which one file was replaced and nothing else was changed
* `Files.target?` — the place in memory that a path leads to

## Main results

* `Files.follow_put` — a path still leads where it led when a file is put there
* `Files.writeTo_eq` — a write in memory, by what becomes of the store
-/

set_option autoImplicit false

namespace UsageScan

/-! ### Stores that can be relied on -/

namespace FileAccess

variable {σ : Type} [FileAccess (StateM σ)]

/-- What comes of reading a file in a store, and the store after that. -/
def readFrom (s : σ) (path : String) : Except Files.Fault ByteArray × σ :=
  (read path : StateM σ (Except Files.Fault ByteArray)).run s

/-- What comes of writing a file in a store, and the store after that. -/
def writeTo (s : σ) (path : String) (contents : ByteArray) : Except Files.Fault Unit × σ :=
  (write path contents : StateM σ (Except Files.Fault Unit)).run s

end FileAccess

open FileAccess in
/-- A store of files that can be relied on. A file is told from another by its place, to which many
paths may lead. A path may lead to a place where no file lies yet. -/
class FileStore (σ : Type) [FileAccess (StateM σ)] where
  Place : Type
  place? : σ → String → Option Place
  /-- The contents of the file at a place, if one lies there. -/
  held : σ → Place → Option ByteArray
  snd_readFrom (s : σ) (path : String) : (readFrom s path).2 = s
  /-- What is read is what the file holds. -/
  held_of_read {s : σ} {path : String} {contents : ByteArray} :
    (readFrom s path).1 = .ok contents →
      ∃ p, place? s path = some p ∧ held s p = some contents
  /-- A write that fails changes nothing. -/
  snd_writeTo_of_error {s : σ} {path : String} {contents : ByteArray} {fault : Files.Fault} :
    (writeTo s path contents).1 = .error fault → (writeTo s path contents).2 = s
  /-- Any other write replaces the file that the path leads to, and still leads to. -/
  replaced_of_ok {s : σ} {path : String} {contents : ByteArray} :
    (writeTo s path contents).1 = .ok () →
      ∃ p, place? s path = some p ∧ place? (writeTo s path contents).2 path = some p ∧
        held (writeTo s path contents).2 p = some contents ∧
        ∀ q, q ≠ p → held (writeTo s path contents).2 q = held s q

/-- A store after the file at a path was replaced as a whole. Every other file is as it was, and
none was added or lost. -/
def FileStore.Replaced {σ : Type} [FileAccess (StateM σ)] [FileStore σ] (s : σ) (path : String)
    (contents : ByteArray) (s' : σ) : Prop :=
  ∃ p : Place σ, place? s path = some p ∧ place? s' path = some p ∧ held s' p = some contents ∧
    ∀ q, q ≠ p → held s' q = held s q

/-! ### Files in memory -/

namespace Files

/-- The contents of the file under some names, if one lies there. -/
def held (fs : Files) (names : List String) : Option ByteArray :=
  match fs.find? names with
  | some (.file contents) => some contents
  | _ => none

/-- The names that a path leads to as the path of a file, whether one lies there or not. -/
def target? (fs : Files) (path : String) : Option (List String) :=
  if endsInSlash path then none else (fs.resolve path (parts path)).toOption

/-! ### Putting a file -/

section Put

variable {fs : Files} {names : List String} {entry : Entry}

@[simp] theorem workingDirectory_put :
    (fs.put names entry).workingDirectory = fs.workingDirectory := by
  rw [put]
  split <;> rfl

/-- Under the names lies what was put there. -/
theorem find?_put (h : fs.find? names ≠ some .directory) :
    (fs.put names entry).find? names = some entry := by
  have hnotAbove : fs.workingDirectory.take names.length ≠ names := by
    intro habove
    exact h (if_pos habove)
  rw [find?, workingDirectory_put, if_neg hnotAbove, put]
  split
  case isTrue hany =>
    -- The entry takes the place of the one that lay there.
    have hkeeps : ((·.1 == names) ∘ fun e : List String × Entry =>
        if e.1 = names then (names, entry) else e) = (·.1 == names) := by
      funext e
      by_cases heq : e.1 = names <;> simp [heq]
    obtain ⟨old, hold⟩ := Option.isSome_iff_exists.mp (List.find?_isSome.mpr
      (List.any_eq_true.mp hany))
    have hname : old.1 = names := by simpa using List.find?_some hold
    rw [List.find?_map, hkeeps, hold, Option.map_some, Option.map_some, if_pos hname]
  case isFalse hany =>
    have hnone : fs.entries.find? (·.1 == names) = none := by
      rw [List.find?_eq_none]
      intro e he hname
      exact hany (List.any_eq_true.mpr ⟨e, he, hname⟩)
    have hself : (names == names) = true := beq_self_eq_true names
    simp only [List.find?_append, hnone, Option.none_or, List.find?_cons, hself, Option.map_some]

/-- Under other names lies what lay there. -/
theorem find?_put_of_ne {other : List String} (h : other ≠ names) :
    (fs.put names entry).find? other = fs.find? other := by
  have hother : (names == other) = false := beq_false_of_ne h.symm
  have hentries : (fs.put names entry).entries.find? (·.1 == other) =
      fs.entries.find? (·.1 == other) := by
    rw [put]
    split
    case isTrue =>
      have hkeeps : ((·.1 == other) ∘ fun e : List String × Entry =>
          if e.1 = names then (names, entry) else e) = (·.1 == other) := by
        funext e
        by_cases heq : e.1 = names <;> simp [heq]
      have hstays : ∀ e ∈ fs.entries.find? (·.1 == other),
          (if e.1 = names then (names, entry) else e) = e := by
        intro e he
        have hname : e.1 = other := by simpa using List.find?_some he
        rw [if_neg (hname ▸ h)]
      rw [List.find?_map, hkeeps, Option.map_congr hstays, Option.map_id']
    case isFalse =>
      simp only [List.find?_append, List.find?_cons, hother, List.find?_nil, Option.or_none]
  rw [find?, find?, workingDirectory_put, hentries]

/-- A path that leads to a place of a file still leads there when the file is put there: on the way
to it lie directories only. -/
theorem follow_put {here : List String} {parts : List String}
    (hfollow : fs.follow here parts = .ok names) (h : fs.find? names ≠ some .directory) :
    (fs.put names entry).follow here parts = .ok names := by
  induction parts generalizing here with
  | nil => exact hfollow
  | cons part parts ih =>
    rw [follow] at hfollow ⊢
    cases hfind : fs.find? here with
    | none => simp [hfind] at hfollow
    | some found =>
      cases found with
      | file contents => simp [hfind] at hfollow
      | directory =>
        -- A file is put under the names, and what is passed through is a directory.
        have hne : here ≠ names := by
          rintro rfl
          exact h hfind
        rw [find?_put_of_ne hne, hfind]
        simp only [hfind] at hfollow ⊢
        split at hfollow
        case isTrue => cases hfollow
        case isFalse hsize =>
          rw [if_neg hsize]
          exact ih hfollow

end Put

/-! ### What reading and writing do -/

section ReadWrite

variable {fs fs' : Files} {path : String} {names : List String} {contents : ByteArray}

theorem resolve_eq_ok {parts : List String} : fs.resolve path parts = .ok names ↔
    checkPath path = .ok () ∧ path ≠ "" ∧ fs.follow (fs.origin path) parts = .ok names := by
  rw [resolve, bind_eq_ok]
  cases checkPath path <;> by_cases hempty : path = "" <;> simp [hempty]

theorem target?_eq_some : fs.target? path = some names ↔
    endsInSlash path = false ∧ fs.resolve path (parts path) = .ok names := by
  rw [target?]
  cases endsInSlash path with
  | true => simp
  | false => simp [toOption_eq_some]

/-- A dot at the end of a path leads to a directory only. -/
theorem find?_of_follow_dot {here : List String} {parts : List String}
    (h : fs.follow here (parts ++ ["."]) = .ok names) : fs.find? names = some .directory := by
  induction parts generalizing here with
  | nil =>
    rw [List.nil_append, follow] at h
    split at h
    case h_1 => cases h
    case h_2 => cases h
    case h_3 hfind =>
      split at h
      case isTrue => cases h
      case isFalse =>
        cases h
        exact hfind
  | cons part parts ih =>
    rw [List.cons_append, follow] at h
    split at h
    case h_1 => cases h
    case h_2 => cases h
    case h_3 =>
      split at h
      case isTrue => cases h
      case isFalse => exact ih h

theorem held_eq_some :
    fs.held names = some contents ↔ fs.find? names = some (.file contents) := by
  rw [held]
  split
  case h_1 found hfind => rw [hfind, Option.some_inj, Option.some_inj, Entry.file.injEq]
  case h_2 hnot => exact iff_of_false nofun (hnot contents)

/-- What is read is what lies where the path leads to. -/
theorem read_eq_ok : fs.read path = .ok contents ↔
    ∃ names, fs.target? path = some names ∧ fs.held names = some contents := by
  rw [read, bind_eq_ok]
  simp only [target?_eq_some, held_eq_some]
  cases endsInSlash path with
  | true =>
    refine iff_of_false ?_ (by simp)
    rintro ⟨names, hresolve, hfound⟩
    have hfind := find?_of_follow_dot (resolve_eq_ok.mp hresolve).2.2
    simp [hfind] at hfound
  | false =>
    refine exists_congr fun names => and_congr (by simp) ?_
    cases fs.find? names with
    | none => simp
    | some found => cases found <;> simp

/-- A file is written where the path leads to, unless a directory lies there. -/
theorem write_eq_ok : fs.write path contents = .ok fs' ↔
    ∃ names, fs.target? path = some names ∧ fs.find? names ≠ some .directory ∧
      fs' = fs.put names (.file contents) := by
  rw [write]
  simp only [target?_eq_some]
  cases endsInSlash path with
  | true => simp [bind_eq_ok]
  | false =>
    rw [if_neg Bool.false_ne_true, bind_eq_ok]
    refine exists_congr fun names => ?_
    cases fs.find? names with
    | none => simp [eq_comm]
    | some found => cases found <;> simp [eq_comm]

/-- A path that leads to a file leads to it also when the file has been put there. -/
theorem target?_put (htarget : fs.target? path = some names) (h : fs.find? names ≠ some .directory)
    (entry : Entry) : (fs.put names entry).target? path = some names := by
  obtain ⟨hslash, hresolve⟩ := target?_eq_some.mp htarget
  obtain ⟨hcheck, hne, hfollow⟩ := resolve_eq_ok.mp hresolve
  have horigin : (fs.put names entry).origin path = fs.origin path := by
    rw [origin, origin, workingDirectory_put]
  refine target?_eq_some.mpr ⟨hslash, resolve_eq_ok.mpr ⟨hcheck, hne, ?_⟩⟩
  rw [horigin]
  exact follow_put hfollow h

end ReadWrite

open FileAccess in
/-- A write in memory, told by what becomes of the store. -/
theorem writeTo_eq (fs : Files) (path : String) (contents : ByteArray) :
    writeTo fs path contents = match fs.write path contents with
      | .error fault => (.error fault, fs)
      | .ok fs' => (.ok (), fs') := by
  have hwriteTo : writeTo fs path contents = StateT.run (match fs.write path contents with
      | .error fault => (pure (.error fault) : StateM Files (Except Fault Unit))
      | .ok fs' => do
        set fs'
        pure (.ok ())) fs := rfl
  rw [hwriteTo]
  cases fs.write path contents <;> rfl

instance : FileStore Files where
  Place := List String
  place? := target?
  held := held
  snd_readFrom _ _ := rfl
  held_of_read := read_eq_ok.mp
  snd_writeTo_of_error h := by
    rw [writeTo_eq] at h ⊢
    split at h
    case h_1 => rfl
    case h_2 => cases h
  replaced_of_ok h := by
    rw [writeTo_eq] at h ⊢
    split at h
    case h_1 => cases h
    case h_2 fs' hwrite =>
      obtain ⟨names, htarget, hfile, rfl⟩ := write_eq_ok.mp hwrite
      refine ⟨names, htarget, target?_put htarget hfile _, held_eq_some.mpr (find?_put hfile), ?_⟩
      intro other hne
      rw [held, held, find?_put_of_ne hne]

end Files

end UsageScan
