import UsageScan.Command.Arguments
import UsageScan.Proofs.Except
/-!
# What a command line gives

A command line is spelled from what it gives: flags, values of parameters and a file. The same can
be spelled in many ways: a flag by its name or by its letter, several letters behind one dash, a
value joined to its parameter or behind it, a file in the open or behind two dashes. Whatever
command line is read, it is one of these spellings, and what has been read from it is what it gives,
with nothing left out and nothing added.

## Main definitions

* `Command.Given` — one thing that a command line gives
* `Command.Spells` — the spellings of what a command line gives
* `Command.Arguments.Holds` — arguments that say just what was given
* `Command.Reading.Sound` — what holds of a reading between two arguments

## Main results

* `Command.Reading.Sound.take` — one more argument
* `Command.exists_spells_of_read` — a command line that is read gives what has been read from it
-/

set_option autoImplicit false

namespace UsageScan.Command

/-- One thing that a command line gives: a flag, or a value for a parameter. -/
inductive Given where
  | flag (flag : Flag)
  | value (parameter : Parameter) (value : String)
deriving DecidableEq, Repr

/-- An argument that looks neither like a flag nor like a named parameter. -/
def IsWord (argument : String) : Prop :=
  ∀ c cs, argument.toList ≠ '-' :: c :: cs

/-- The spellings of what a command line gives. The Boolean tells whether two dashes alone have made
a file of everything that still follows. -/
inductive Spells : Bool → List String → List Given → Prop
  | nothing : Spells false [] []
  | flag {args : List String} {gs : List Given} (f : Flag) :
      Spells false args gs → Spells false (args ++ ["--" ++ f.name]) (gs ++ [.flag f])
  | letters {args : List String} {gs : List Given} {cs : List Char} {fs : List Flag} :
      Spells false args gs → cs.mapM Flag.ofLetter? = some fs →
        Spells false (args ++ [.ofList ('-' :: cs)]) (gs ++ fs.map .flag)
  | joined {args : List String} {gs : List Given} {p : Parameter} {name : String}
      (value : String) : Spells false args gs → p.name? = some name →
        Spells false (args ++ ["--" ++ name ++ "=" ++ value]) (gs ++ [.value p value])
  | apart {args : List String} {gs : List Given} {p : Parameter} {name value : String} :
      Spells false args gs → p.name? = some name → IsWord value →
        Spells false (args ++ ["--" ++ name, value]) (gs ++ [.value p value])
  | word {args : List String} {gs : List Given} {file : String} :
      Spells false args gs → IsWord file → Spells false (args ++ [file]) (gs ++ [.value .file file])
  | dashes {args : List String} {gs : List Given} :
      Spells false args gs → Spells true (args ++ ["--"]) gs
  | behind {args : List String} {gs : List Given} (file : String) :
      Spells true args gs → Spells true (args ++ [file]) (gs ++ [.value .file file])

namespace Arguments

/-- Whether a flag has been raised. -/
def raised (a : Arguments) : Flag → Bool
  | .checkSemicolons => a.checkSemicolons
  | .quiet => a.quiet
  | .verbose => a.verbose
  | .help | .version => false

/-- That a value has been taken for its parameter. -/
def Takes (a : Arguments) : Parameter → String → Prop
  | .stats, value => a.stats = some value
  | .config, value => a.config = some value
  | .file, value => a.file = some value
  | .maxTokenLength, value => ∃ n, readSize value = .ok n ∧ a.maxTokenLength = some n

/-- Arguments that say just what was given. -/
structure Holds (a : Arguments) (gs : List Given) : Prop where
  flag (f : Flag) : .flag f ∈ gs ↔ a.raised f = true
  value {p : Parameter} {v : String} : .value p v ∈ gs → a.Takes p v
  given {p : Parameter} : a.gives p = true → ∃ v, .value p v ∈ gs

/-! ### Values -/

section Values

variable {a a' : Arguments} {gs : List Given} {p : Parameter} {v : String}

theorem Takes.gives (h : a.Takes p v) : a.gives p = true := by
  cases p with
  | maxTokenLength =>
    obtain ⟨n, -, hn⟩ := h
    exact Option.isSome_of_eq_some hn
  | stats | config | file => exact Option.isSome_of_eq_some h

theorem holds_empty : empty.Holds [] where
  flag f := by cases f <;> decide
  value h := by cases h
  given {p} h := by cases p <;> cases h

/-- To assign a value to a parameter changes that parameter only. -/
theorem assign_eq_ok (h : a.assign p v = .ok a') : a'.Takes p v ∧ a'.raised = a.raised ∧
    ∀ q, q ≠ p → a'.gives q = a.gives q ∧ ∀ w, a'.Takes q w ↔ a.Takes q w := by
  cases p with
  | stats =>
    cases h
    refine ⟨rfl, rfl, fun q hne => ?_⟩
    cases q <;> simp_all [gives, Takes]
  | config | file =>
    rw [assign] at h
    split at h
    case isTrue => cases h
    case isFalse =>
      cases h
      refine ⟨rfl, rfl, fun q hne => ?_⟩
      cases q <;> simp_all [gives, Takes]
  | maxTokenLength =>
    rw [assign] at h
    split at h
    case h_1 => cases h
    case h_2 n hsize =>
      cases h
      refine ⟨⟨n, hsize, rfl⟩, rfl, fun q hne => ?_⟩
      cases q <;> simp_all [gives, Takes]

/-- A value that is accepted is one that was not given before. -/
theorem Holds.accept (hold : a.Holds gs) (h : a.accept p (some v) = .ok a') :
    a'.Holds (gs ++ [.value p v]) := by
  rw [Arguments.accept] at h
  split at h
  case isTrue => cases h
  case isFalse hnew =>
    obtain ⟨htakes, hraised, hothers⟩ := assign_eq_ok h
    constructor
    case flag =>
      intro f
      rw [hraised, ← hold.flag f]
      simp
    case value =>
      intro q w hmem
      obtain hbefore | hlast := List.mem_append.mp hmem
      -- No parameter is given twice, so the new value takes no other one's place.
      · have hold' := hold.value hbefore
        have hne : q ≠ p := by
          rintro rfl
          exact hnew hold'.gives
        exact ((hothers q hne).2 w).mpr hold'
      · cases List.mem_singleton.mp hlast
        exact htakes
    case given =>
      intro q hgives
      by_cases hq : q = p
      · subst hq
        exact ⟨v, List.mem_append_right _ (List.mem_singleton_self _)⟩
      · rw [(hothers q hq).1] at hgives
        obtain ⟨w, hw⟩ := hold.given hgives
        exact ⟨w, List.mem_append_left _ hw⟩

end Values

end Arguments

/-! ### Steps of a reading -/

namespace Reading

/-- What a reading holds: what it has examined, and the value that it is still to examine. -/
inductive Holding (r : Reading) : List Given → Prop
  | settled {gs : List Given} : r.pending = none → r.arguments.Holds gs → Holding r gs
  | pending {gs : List Given} {p : Parameter} {v : String} : r.pending = some (p, some v) →
      r.arguments.Holds gs → Holding r (gs ++ [.value p v])

section Holding

variable {r r' : Reading} {gs : List Given} {p : Parameter} {v : String} {f : Flag}

theorem accept_eq_ok (h : r.accept p (some v) = .ok r') : r'.pending = r.pending ∧
    r'.filesOnly = r.filesOnly ∧ r.arguments.accept p (some v) = .ok r'.arguments := by
  rw [accept] at h
  split at h
  case h_1 => cases h
  case h_2 a haccept =>
    cases h
    exact ⟨rfl, rfl, haccept⟩

/-- Once a reading is settled, it has examined all that it holds. -/
theorem Holding.settle (hold : r.Holding gs) (h : r.settle = .ok r') :
    r'.pending = none ∧ r'.filesOnly = r.filesOnly ∧ r'.arguments.Holds gs := by
  rw [Reading.settle] at h
  cases hold with
  | settled hpending hold =>
    rw [hpending] at h
    cases h
    exact ⟨hpending, rfl, hold⟩
  | pending hpending hold =>
    rw [hpending] at h
    obtain ⟨hnone, hfiles, haccept⟩ := accept_eq_ok h
    exact ⟨hnone, hfiles, hold.accept haccept⟩

/-- A reading that awaits a value cannot be settled. -/
theorem settle_of_awaiting (hpending : r.pending = some (p, none)) : r.settle ≠ .ok r' := by
  rw [Reading.settle, hpending]
  nofun

theorem Holding.not_awaiting (hold : r.Holding gs) : r.pending ≠ some (p, none) := by
  cases hold with
  | settled hpending _ => simp [hpending]
  | pending hpending _ => simp [hpending]

/-- To raise a flag changes that flag only, once the reading is settled. -/
theorem raise_eq_ok (h : r.raise f = .ok r') : ∃ r₀, r.settle = .ok r₀ ∧
    r'.pending = r₀.pending ∧ r'.filesOnly = r₀.filesOnly ∧
      r'.arguments.gives = r₀.arguments.gives ∧ r'.arguments.Takes = r₀.arguments.Takes ∧
        ∀ g, r'.arguments.raised g = true ↔ r₀.arguments.raised g = true ∨ g = f := by
  rw [Reading.raise, bind_eq_ok] at h
  obtain ⟨r₀, hsettle, h⟩ := h
  refine ⟨r₀, hsettle, ?_⟩
  cases f with
  | help | version => cases h
  | checkSemicolons | quiet | verbose =>
    dsimp only at h
    split at h
    case isTrue => cases h
    case isFalse =>
      cases h
      refine ⟨rfl, rfl, ?_, ?_, fun g => ?_⟩
      · funext p
        cases p <;> rfl
      · funext p
        cases p <;> rfl
      · cases g <;> simp [Arguments.raised]

/-- A flag that is raised is held. -/
theorem Holding.raise (hold : r.Holding gs) (h : r.raise f = .ok r') :
    r'.pending = none ∧ r'.filesOnly = r.filesOnly ∧ r'.arguments.Holds (gs ++ [.flag f]) := by
  obtain ⟨r₀, hsettle, hpending, hfiles, hgives, htakes, hraised⟩ := raise_eq_ok h
  obtain ⟨hnone, hsame, hold⟩ := hold.settle hsettle
  refine ⟨hpending.trans hnone, hfiles.trans hsame, ?_⟩
  constructor
  case flag =>
    intro g
    rw [hraised, ← hold.flag g]
    simp
  case value =>
    intro p v hmem
    rw [htakes]
    exact hold.value (by simpa using hmem)
  case given =>
    intro p hp
    rw [hgives] at hp
    obtain ⟨v, hv⟩ := hold.given hp
    exact ⟨v, List.mem_append_left _ hv⟩

/-- The letters behind one dash raise a flag each. -/
theorem Holding.takeLetters {cs : List Char} (hold : r.Holding gs) (h : r.takeLetters cs = .ok r') :
    ∃ fs, cs.mapM Flag.ofLetter? = some fs ∧ r'.filesOnly = r.filesOnly ∧
      r'.Holding (gs ++ fs.map .flag) := by
  induction cs generalizing r gs with
  | nil =>
    cases h
    exact ⟨[], rfl, rfl, by simpa using hold⟩
  | cons c cs ih =>
    rw [Reading.takeLetters] at h
    split at h
    case h_1 => cases h
    case h_2 f hletter =>
      obtain ⟨r₁, hraise, h⟩ := bind_eq_ok.mp h
      obtain ⟨hnone, hsame, hheld⟩ := hold.raise hraise
      -- Only the first letter can find something pending.
      obtain ⟨fs, hfs, hfiles, hholding⟩ := ih (.settled hnone hheld) h
      refine ⟨f :: fs, ?_, hfiles.trans hsame, ?_⟩
      · simp [hletter, hfs]
      · simpa using hholding

end Holding

/-! ### Ending early -/

/-- That a step does not end the reading with a file to scan. Only the end of the command line does
that. -/
def GoesOn {α : Type} (x : Except Stop α) : Prop :=
  ∀ a, x ≠ .error (.request (.scan a))

section GoesOn

variable (r : Reading)

theorem goesOn_ok {α : Type} (x : α) : GoesOn (.ok x : Except Stop α) := nofun

theorem goesOn_error {α : Type} (error : UsageError) :
    GoesOn (.error (.error error) : Except Stop α) := nofun

theorem GoesOn.bind {α β : Type} {x : Except Stop α} {f : α → Except Stop β} (hx : GoesOn x)
    (hf : ∀ a, GoesOn (f a)) : GoesOn (x >>= f) := by
  cases x with
  | error stop => exact fun a h => hx a (congrArg Except.error (Except.error.inj h))
  | ok a => exact hf a

theorem goesOn_accept (p : Parameter) (value : Option String) : GoesOn (r.accept p value) := by
  rw [accept]
  split
  case h_1 => exact goesOn_error _
  case h_2 => exact goesOn_ok _

theorem goesOn_settle : GoesOn r.settle := by
  rw [Reading.settle]
  split
  case h_1 => exact goesOn_ok _
  case h_2 => exact goesOn_accept _ _ _

theorem goesOn_raise (f : Flag) : GoesOn (r.raise f) := by
  rw [Reading.raise]
  refine (goesOn_settle r).bind fun r₀ => ?_
  cases f with
  | help | version => exact nofun
  | checkSemicolons | quiet | verbose =>
    dsimp only
    split
    case isTrue => exact goesOn_error _
    case isFalse => exact goesOn_ok _

theorem goesOn_takeFile (argument : String) : GoesOn (r.takeFile argument) := by
  rw [Reading.takeFile]
  split
  case isTrue => exact goesOn_error _
  case isFalse => exact (goesOn_settle r).bind fun _ => goesOn_ok _

theorem goesOn_takeNamed (name : String) (value : Option String) :
    GoesOn (r.takeNamed name value) := by
  unfold Reading.takeNamed
  split
  case h_1 => exact (goesOn_settle r).bind fun _ => goesOn_accept _ _ _
  case h_2 => exact (goesOn_settle r).bind fun _ => goesOn_ok _
  case h_3 => exact goesOn_error _
  case h_4 => exact goesOn_raise r _
  case h_5 => exact goesOn_error _

theorem goesOn_takeLetters (cs : List Char) : GoesOn (r.takeLetters cs) := by
  induction cs generalizing r with
  | nil => exact goesOn_ok _
  | cons c cs ih =>
    rw [Reading.takeLetters]
    split
    case h_1 => exact goesOn_error _
    case h_2 => exact (goesOn_raise r _).bind fun r₁ => ih r₁

theorem goesOn_take (argument : String) : GoesOn (r.take argument) := by
  rw [Reading.take]
  split
  case isTrue => exact goesOn_takeFile r argument
  case isFalse =>
    split
    case h_1 => exact goesOn_ok _
    case h_2 => exact goesOn_takeNamed r _ _
    case h_3 => exact goesOn_takeLetters r _
    case h_4 =>
      rw [Reading.takeWord]
      split
      case h_1 => exact goesOn_ok _
      case h_2 => exact goesOn_takeFile r argument

theorem goesOn_takeAll (args : List String) : GoesOn (args.foldlM Reading.take r) := by
  induction args generalizing r with
  | nil => exact goesOn_ok _
  | cons argument args ih => exact (goesOn_take r argument).bind fun r₁ => ih r₁

end GoesOn

/-! ### Readings between arguments -/

/-- A reading between two arguments: it holds what the arguments before give, or it awaits a value.
If it awaits a value and takes everything for a file, it cannot end well. -/
inductive Sound (args : List String) (r : Reading) : Prop
  | holding {gs : List Given} : Spells r.filesOnly args gs → r.Holding gs → Sound args r
  | awaiting {before : List String} {gs : List Given} {p : Parameter} {name : String} :
      r.filesOnly = false → r.pending = some (p, none) → p.name? = some name →
        args = before ++ ["--" ++ name] → Spells false before gs → r.arguments.Holds gs →
          Sound args r
  | lost {p : Parameter} : r.filesOnly = true → r.pending = some (p, none) → Sound args r

section Steps

variable {r r' : Reading} {args : List String} {argument : String}

theorem sound_start : Sound [] start :=
  .holding .nothing (.settled rfl Arguments.holds_empty)

/-- A reading that can be settled does not await a value. -/
theorem Sound.holding_of_settle (hsound : Sound args r) (h : r.settle = .ok r') :
    ∃ gs, Spells r.filesOnly args gs ∧ r.Holding gs := by
  cases hsound with
  | holding hspells hold => exact ⟨_, hspells, hold⟩
  | awaiting _ hpending => exact absurd h (settle_of_awaiting hpending)
  | lost _ hpending => exact absurd h (settle_of_awaiting hpending)

/-- Once a reading is settled, it holds what all arguments before give. -/
theorem Sound.settle (hsound : Sound args r) (h : r.settle = .ok r') :
    ∃ gs, Spells r.filesOnly args gs ∧ r'.pending = none ∧ r'.filesOnly = r.filesOnly ∧
      r'.arguments.Holds gs := by
  obtain ⟨gs, hspells, hold⟩ := hsound.holding_of_settle h
  exact ⟨gs, hspells, hold.settle h⟩

/-- An argument that is taken for the file. -/
theorem Sound.takeFile (hsound : Sound args r) (h : r.takeFile argument = .ok r')
    (hfile : ∀ gs, Spells r.filesOnly args gs →
      Spells r.filesOnly (args ++ [argument]) (gs ++ [.value .file argument])) :
    Sound (args ++ [argument]) r' := by
  rw [Reading.takeFile] at h
  split at h
  case isTrue => cases h
  case isFalse =>
    obtain ⟨r₀, hsettle, h⟩ := bind_eq_ok.mp h
    obtain ⟨gs, hspells, -, hfiles, hheld⟩ := hsound.settle hsettle
    cases h
    have hspells' : Spells r₀.filesOnly (args ++ [argument]) (gs ++ [.value .file argument]) :=
      hfiles ▸ hfile gs hspells
    exact .holding hspells' (.pending rfl hheld)

/-- A word is the value that is awaited, or the file. -/
theorem Sound.takeWord (hsound : Sound args r) (hopen : r.filesOnly = false)
    (hword : IsWord argument) (h : r.takeWord argument = .ok r') :
    Sound (args ++ [argument]) r' := by
  rw [Reading.takeWord] at h
  split at h
  case h_1 p hawaited =>
    cases h
    cases hsound with
    | holding _ hold => exact absurd hawaited hold.not_awaiting
    | lost hfiles _ => cases hopen.symm.trans hfiles
    | awaiting _ hpending hname hargs hspells hheld =>
      -- The word is the value of the parameter that was named last.
      obtain ⟨rfl, -⟩ := Prod.mk.inj (Option.some.inj (hawaited.symm.trans hpending))
      subst hargs
      have happart := hspells.apart hname hword
      rw [List.append_assoc]
      exact .holding (hopen ▸ happart) (.pending rfl hheld)
  case h_2 =>
    refine hsound.takeFile h fun gs hspells => ?_
    rw [hopen] at hspells ⊢
    exact hspells.word hword

theorem name_of_ofName? {name : String} {f : Flag} (h : Flag.ofName? name = some f) :
    f.name = name := by
  simpa using List.find?_some h

theorem name?_of_ofName? {name : String} {p : Parameter} (h : Parameter.ofName? name = some p) :
    p.name? = some name := by
  simpa using List.find?_some h

/-- A name is that of a parameter, with or without a value, or that of a flag. -/
theorem Sound.takeNamed {name : String} {value : Option String} (hsound : Sound args r)
    (hopen : r.filesOnly = false) (hnone : value = none → argument = "--" ++ name)
    (hsome : ∀ v, value = some v → argument = "--" ++ name ++ "=" ++ v)
    (h : r.takeNamed name value = .ok r') : Sound (args ++ [argument]) r' := by
  cases hp : Parameter.ofName? name with
  | some p =>
    cases value with
    | some v =>
      simp only [Reading.takeNamed, hp] at h
      obtain ⟨r₀, hsettle, h⟩ := bind_eq_ok.mp h
      obtain ⟨gs, hspells, hsettled, hfiles, hheld⟩ := hsound.settle hsettle
      obtain ⟨hpending, hsame, haccept⟩ := accept_eq_ok h
      have hopen' : r'.filesOnly = false := by rw [hsame, hfiles, hopen]
      rw [hopen] at hspells
      rw [hsome v rfl]
      exact .holding (hopen' ▸ hspells.joined v (name?_of_ofName? hp))
        (.settled (hpending.trans hsettled) (hheld.accept haccept))
    | none =>
      simp only [Reading.takeNamed, hp] at h
      obtain ⟨r₀, hsettle, h⟩ := bind_eq_ok.mp h
      obtain ⟨gs, hspells, -, hfiles, hheld⟩ := hsound.settle hsettle
      cases h
      rw [hopen] at hspells
      rw [hnone rfl]
      exact .awaiting (hfiles.trans hopen) rfl (name?_of_ofName? hp) rfl hspells hheld
  | none =>
    cases hf : Flag.ofName? name with
    | none =>
      simp only [Reading.takeNamed, hp, hf] at h
      cases h
    | some f =>
      cases value with
      | some v =>
        simp only [Reading.takeNamed, hp, hf] at h
        cases h
      | none =>
        simp only [Reading.takeNamed, hp, hf] at h
        obtain ⟨r₀, hsettle, -⟩ := raise_eq_ok h
        obtain ⟨gs, hspells, hold⟩ := hsound.holding_of_settle hsettle
        obtain ⟨hpending, hfiles, hheld⟩ := hold.raise h
        have hopen' : r'.filesOnly = false := hfiles.trans hopen
        rw [hopen] at hspells
        rw [hnone rfl, ← name_of_ofName? hf]
        exact .holding (hopen' ▸ hspells.flag f) (.settled hpending hheld)

/-- The letters behind one dash are spelled as they are taken. -/
theorem Sound.takeLetters {c : Char} {cs : List Char} (hsound : Sound args r)
    (hopen : r.filesOnly = false) (h : r.takeLetters (c :: cs) = .ok r') :
    Sound (args ++ [.ofList ('-' :: c :: cs)]) r' := by
  have hsettle : ∃ r₀, r.settle = .ok r₀ := by
    rw [Reading.takeLetters] at h
    split at h
    case h_1 => cases h
    case h_2 =>
      obtain ⟨r₁, hraise, -⟩ := bind_eq_ok.mp h
      obtain ⟨r₀, hsettle, -⟩ := raise_eq_ok hraise
      exact ⟨r₀, hsettle⟩
  obtain ⟨r₀, hsettle⟩ := hsettle
  obtain ⟨gs, hspells, hold⟩ := hsound.holding_of_settle hsettle
  obtain ⟨fs, hfs, hfiles, hholding⟩ := hold.takeLetters h
  rw [hopen] at hspells
  have hopen' : r'.filesOnly = false := hfiles.trans hopen
  exact .holding (hopen' ▸ hspells.letters hfs) hholding

/-- Behind two dashes alone everything is a file. -/
theorem Sound.takeDashes (hsound : Sound args r) (hopen : r.filesOnly = false) :
    Sound (args ++ ["--"]) { r with filesOnly := true } := by
  cases hsound with
  | holding hspells hold =>
    rw [hopen] at hspells
    refine .holding hspells.dashes ?_
    cases hold with
    | settled hpending hheld => exact .settled hpending hheld
    | pending hpending hheld => exact .pending hpending hheld
  | awaiting _ hpending => exact .lost rfl hpending
  | lost _ hpending => exact .lost rfl hpending

/-- A name without a value is all of what was split. -/
theorem splitValue_eq_none {cs : List Char} {name : String} (h : splitValue cs = (name, none)) :
    .ofList cs = name := by
  rw [splitValue] at h
  split at h
  case h_1 => exact congrArg Prod.fst h
  case h_2 => cases h

/-- A name and the value joined to it make up what was split. -/
theorem splitValue_eq_some {cs : List Char} {name v : String}
    (h : splitValue cs = (name, some v)) : .ofList cs = name ++ "=" ++ v := by
  rw [splitValue] at h
  split at h
  case h_1 => cases h
  case h_2 c value hrest =>
    cases h
    have hequals : c = '=' := by
      have hhead := List.head?_dropWhile_not (· ≠ '=') cs
      rw [hrest] at hhead
      simpa using hhead
    have hcs := List.takeWhile_append_dropWhile (p := (· ≠ '=')) (l := cs)
    rw [hrest, hequals] at hcs
    apply String.toList_inj.mp
    simpa using hcs.symm

/-- A reading stays sound. -/
theorem Sound.take (hsound : Sound args r) (h : r.take argument = .ok r') :
    Sound (args ++ [argument]) r' := by
  rw [Reading.take] at h
  split at h
  case isTrue hfiles =>
    refine hsound.takeFile h fun gs hspells => ?_
    rw [hfiles] at hspells ⊢
    exact hspells.behind argument
  case isFalse hnotFiles =>
    have hopen : r.filesOnly = false := Bool.eq_false_iff.mpr hnotFiles
    split at h
    case h_1 hchars =>
      cases h
      have hdashes : argument = "--" := String.toList_inj.mp hchars
      rw [hdashes]
      exact hsound.takeDashes hopen
    case h_2 cs hne hchars =>
      have hchars' : argument = "--" ++ .ofList cs := by
        apply String.toList_inj.mp
        simp [hchars]
      cases hsplit : splitValue cs with
      | mk name value =>
        rw [hsplit] at h
        refine hsound.takeNamed hopen (fun hnone => ?_) (fun v hsome => ?_) h
        · rw [hnone] at hsplit
          rw [hchars', splitValue_eq_none hsplit]
        · rw [hsome] at hsplit
          rw [hchars', splitValue_eq_some hsplit, String.append_assoc, String.append_assoc,
            String.append_assoc]
    case h_3 c cs hone htwo hchars =>
      have hletters : argument = .ofList ('-' :: c :: cs) := by
        rw [← hchars, String.ofList_toList]
      rw [hletters]
      exact hsound.takeLetters hopen h
    case h_4 hword =>
      exact hsound.takeWord hopen (fun c cs hchars => hword c cs hchars) h

theorem Sound.takeAll {more : List String} (hsound : Sound args r)
    (h : more.foldlM Reading.take r = .ok r') : Sound (args ++ more) r' := by
  induction more generalizing args r with
  | nil =>
    cases h
    rwa [List.append_nil]
  | cons argument more ih =>
    obtain ⟨r₁, htake, h⟩ := bind_eq_ok.mp h
    have hrest := ih (hsound.take htake) h
    rwa [List.append_assoc] at hrest

end Steps

end Reading

/-- A command line that is read is a spelling of what has been read from it. -/
theorem exists_spells_of_read {args : List String} {a : Arguments}
    (h : Request.read args = .ok (.scan a)) :
    ∃ filesOnly gs, Spells filesOnly args gs ∧ a.Holds gs := by
  rw [Request.read] at h
  split at h
  case h_1 r hfinished =>
    cases h
    obtain ⟨r₀, hall, hsettle⟩ := bind_eq_ok.mp hfinished
    obtain ⟨gs, hspells, -, -, hheld⟩ := (Reading.sound_start.takeAll hall).settle hsettle
    exact ⟨_, gs, hspells, hheld⟩
  case h_2 request hfinished =>
    -- A reading that ends early asks for help or for the version.
    cases h
    exact absurd hfinished
      ((Reading.goesOn_takeAll _ args).bind (fun r => Reading.goesOn_settle r) a)
  case h_3 => cases h

end UsageScan.Command
