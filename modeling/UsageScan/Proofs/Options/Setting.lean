import Mathlib.Data.List.Nodup
import UsageScan.Options.Setting
import UsageScan.Proofs.Json.Number
/-!
# Configurations and settings

An object configures a run if each of its members names a field, no field is named twice, and each
value is of the type of its field. Then each member gives a setting, and the options have what the
settings say and what is usual in all other fields. The order of the members does not matter.

## Main definitions

* `Options.Setting.IsGivenBy`, `Options.Setting.IsMember` — the values and members that give a
  setting
* `Options.setting` — what the options say of a field
* `Options.Configures`, `Options.Describes` — the objects that configure a run, and the options that
  they describe

## Main results

* `Options.setting_applyAll_of_mem`, `Options.setting_applyAll_of_notMem` — options built up from
  settings
* `Options.exists_gives_iff`, `Options.Gives.describes` — members, their settings and the options
* `Options.Describes.unique` — members describe one choice of options only
-/

set_option autoImplicit false

namespace UsageScan.Options

/-- The value that gives a setting: a truth value, a string, or a number that is spelled with digits
alone and fits into 64 bits. What need not be set may be `null`. -/
inductive Setting.IsGivenBy : Setting → Json → Prop
  | checkSemicolons (check : Bool) : IsGivenBy (.checkSemicolons check) (.bool check)
  | noLimit : IsGivenBy (.maxTokenLength none) .null
  | limit {n : Nat} : n < UInt64.size → IsGivenBy (.maxTokenLength (some n)) (.number n.repr)
  | defaultPath : IsGivenBy (.statsPath none) .null
  | path (path : String) : IsGivenBy (.statsPath (some path)) (.string path)
  | trace (tokens : Bool) : IsGivenBy (.trace tokens) (.bool tokens)

/-- A setting is given by a member of an object: by its value, for the field that it names. -/
def Setting.IsMember (s : Setting) (m : String × Json) : Prop :=
  s.field.name = m.1 ∧ s.IsGivenBy m.2

/-- What the options say of a field. -/
def setting (o : Options) : Field → Setting
  | .checkSemicolons => .checkSemicolons o.checkSemicolons
  | .maxTokenLength => .maxTokenLength o.maxTokenLength
  | .statsPath => .statsPath o.statsPath
  | .trace => .trace o.trace

/-- An object with some members configures a run: no two members have the same name, and each gives
a setting. -/
structure Configures (members : List (String × Json)) : Prop where
  distinct : (members.map Prod.fst).Nodup
  typed : ∀ m ∈ members, ∃ s : Setting, s.IsMember m

/-- Options have what the members of an object give, and are as usual in all other fields. -/
structure Describes (members : List (String × Json)) (o : Options) : Prop where
  given : ∀ f v, (f.name, v) ∈ members → (o.setting f).IsGivenBy v
  absent : ∀ f : Field, f.name ∉ members.map Prod.fst → o.setting f = Options.default.setting f

/-- Members of an object give settings for distinct fields among those that remain. -/
structure Gives (remaining : List Field) (members : List (String × Json))
    (settings : List Setting) : Prop where
  members : List.Forall₂ Setting.IsMember settings members
  distinct : (settings.map Setting.field).Nodup
  remaining : ∀ s ∈ settings, s.field ∈ remaining

theorem gives_nil_iff {remaining : List Field} {settings : List Setting} :
    Gives remaining [] settings ↔ settings = [] := by
  constructor
  · intro h
    exact List.forall₂_nil_right_iff.mp h.members
  · rintro rfl
    exact ⟨.nil, List.nodup_nil, List.forall_mem_nil _⟩

/-- The first member gives a setting for a field that does not remain for the others. -/
theorem gives_cons_iff {remaining : List Field} (hremaining : remaining.Nodup)
    {m : String × Json} {members : List (String × Json)} {settings : List Setting} :
    Gives remaining (m :: members) settings ↔ ∃ s more, s.field ∈ remaining ∧ s.IsMember m ∧
      Gives (remaining.erase s.field) members more ∧ settings = s :: more := by
  constructor
  · rintro ⟨hmembers, hdistinct, hfields⟩
    obtain ⟨s, more, hs, hmore, rfl⟩ := List.forall₂_cons_right_iff.mp hmembers
    obtain ⟨hfield, hfields⟩ := List.forall_mem_cons.mp hfields
    rw [List.map_cons, List.nodup_cons] at hdistinct
    refine ⟨s, more, hfield, hs, ⟨hmore, hdistinct.2, fun s' hs' => ?_⟩, rfl⟩
    refine hremaining.mem_erase_iff.mpr ⟨?_, hfields s' hs'⟩
    intro hsame
    exact hdistinct.1 (hsame ▸ List.mem_map_of_mem hs')
  · rintro ⟨s, more, hfield, hs, ⟨hmore, hdistinct, hfields⟩, rfl⟩
    have hothers : ∀ s' ∈ more, s'.field ≠ s.field ∧ s'.field ∈ remaining :=
      fun s' hs' => hremaining.mem_erase_iff.mp (hfields s' hs')
    refine ⟨.cons hs hmore, ?_, List.forall_mem_cons.mpr ⟨hfield, fun s' hs' => (hothers s' hs').2⟩⟩
    rw [List.map_cons, List.nodup_cons, List.mem_map]
    refine ⟨?_, hdistinct⟩
    rintro ⟨s', hs', hsame⟩
    exact (hothers s' hs').1 hsame

/-! ### What options say -/

theorem field_setting (o : Options) (f : Field) : (o.setting f).field = f := by
  cases f <;> rfl

/-- No two fields have the same name. -/
theorem Field.name_injective : Function.Injective Field.name := by
  intro f g h
  apply Option.some.inj
  rw [← Field.ofName?_name f, h, Field.ofName?_name]

/-- Options that say the same of each field are the same. -/
theorem eq_of_setting_eq {o o' : Options} (h : ∀ f, o.setting f = o'.setting f) : o = o' := by
  obtain ⟨check, limit, path, tokens⟩ := o
  obtain ⟨check', limit', path', tokens'⟩ := o'
  cases h .checkSemicolons
  cases h .maxTokenLength
  cases h .statsPath
  cases h .trace
  rfl

/-- A setting changes its field and no other. -/
theorem setting_apply (o : Options) (s : Setting) (f : Field) :
    (o.apply s).setting f = if s.field = f then s else o.setting f := by
  cases s <;> cases f <;> rfl

theorem setting_applyAll_of_notMem {settings : List Setting} {f : Field}
    (h : f ∉ settings.map Setting.field) (o : Options) :
    (o.applyAll settings).setting f = o.setting f := by
  induction settings generalizing o with
  | nil => rfl
  | cons s settings ih =>
    rw [List.map_cons, List.mem_cons, not_or] at h
    calc (o.applyAll (s :: settings)).setting f
      _ = (o.apply s).setting f := ih h.2 (o.apply s)
      _ = o.setting f := by rw [setting_apply, if_neg (Ne.symm h.1)]

/-- Of settings for distinct fields, none is lost. -/
theorem setting_applyAll_of_mem {settings : List Setting} {s : Setting}
    (hdistinct : (settings.map Setting.field).Nodup) (hs : s ∈ settings) (o : Options) :
    (o.applyAll settings).setting s.field = s := by
  induction settings generalizing o with
  | nil => contradiction
  | cons s' settings ih =>
    rw [List.map_cons, List.nodup_cons] at hdistinct
    rcases List.mem_cons.mp hs with rfl | hs
    · -- The settings behind it are for other fields.
      calc (o.applyAll (s :: settings)).setting s.field
        _ = (o.apply s).setting s.field := setting_applyAll_of_notMem hdistinct.1 (o.apply s)
        _ = s := by rw [setting_apply, if_pos rfl]
    · exact ih hdistinct.2 hs (o.apply s')

/-- A value gives one setting for a field at most. -/
theorem Setting.IsGivenBy.unique {s s' : Setting} {v v' : Json} (hs : s.IsGivenBy v)
    (hs' : s'.IsGivenBy v') (hv : v = v') (hfield : s.field = s'.field) : s = s' := by
  cases hs <;> cases hs' <;> cases hfield
  case limit.limit n _ n' _ =>
    have hvalue := congrArg (fun literal => Json.digitsValue literal.toList) (Json.number.inj hv)
    simp only [Json.digitsValue_repr] at hvalue
    rw [hvalue]
  all_goals cases hv
  all_goals rfl

/-! ### Members and options -/

variable {members members' : List (String × Json)} {settings : List Setting}

theorem map_fst_eq_of_forall₂ (h : List.Forall₂ Setting.IsMember settings members) :
    members.map Prod.fst = (settings.map Setting.field).map Field.name := by
  induction h with
  | nil => rfl
  | cons hs _ ih => rw [List.map_cons, ih, ← hs.1, List.map_cons, List.map_cons]

theorem exists_isMember_of_mem (h : List.Forall₂ Setting.IsMember settings members)
    {m : String × Json} (hm : m ∈ members) : ∃ s ∈ settings, s.IsMember m := by
  induction h with
  | nil => contradiction
  | cons hs _ ih =>
    rcases List.mem_cons.mp hm with rfl | hm
    · exact ⟨_, List.mem_cons_self, hs⟩
    · obtain ⟨s, hmem, hs⟩ := ih hm
      exact ⟨s, List.mem_cons_of_mem _ hmem, hs⟩

theorem exists_forall₂_isMember (h : ∀ m ∈ members, ∃ s : Setting, s.IsMember m) :
    ∃ settings, List.Forall₂ Setting.IsMember settings members := by
  induction members with
  | nil => exact ⟨[], .nil⟩
  | cons m members ih =>
    obtain ⟨⟨s, hs⟩, hmore⟩ := List.forall_mem_cons.mp h
    obtain ⟨more, hmore⟩ := ih hmore
    exact ⟨s :: more, .cons hs hmore⟩

/-- Members configure a run exactly if they give settings. -/
theorem exists_gives_iff : (∃ settings, Gives Field.all members settings) ↔ Configures members := by
  constructor
  · rintro ⟨settings, hmembers, hdistinct, -⟩
    constructor
    · rw [map_fst_eq_of_forall₂ hmembers]
      exact hdistinct.map Field.name_injective
    · intro m hm
      obtain ⟨s, -, hs⟩ := exists_isMember_of_mem hmembers hm
      exact ⟨s, hs⟩
  · rintro ⟨hdistinct, htyped⟩
    obtain ⟨settings, hmembers⟩ := exists_forall₂_isMember htyped
    rw [map_fst_eq_of_forall₂ hmembers] at hdistinct
    exact ⟨settings, hmembers, hdistinct.of_map Field.name, fun s _ => s.field.mem_all⟩

/-- The settings that members give are found in the options. -/
theorem Gives.describes (h : Gives Field.all members settings) :
    Describes members (Options.default.applyAll settings) where
  given f v hm := by
    obtain ⟨s, hmem, hname, hgiven⟩ := exists_isMember_of_mem h.members hm
    obtain rfl := Field.name_injective hname
    rwa [setting_applyAll_of_mem h.distinct hmem]
  absent f hf := by
    apply setting_applyAll_of_notMem
    rw [map_fst_eq_of_forall₂ h.members] at hf
    exact fun hmem => hf (List.mem_map_of_mem hmem)

/-- Members describe one choice of options only. -/
theorem Describes.unique {o o' : Options} (h : Describes members o) (h' : Describes members o') :
    o = o' := by
  apply eq_of_setting_eq
  intro f
  by_cases hf : f.name ∈ members.map Prod.fst
  · obtain ⟨⟨name, v⟩, hm, hname⟩ := List.mem_map.mp hf
    obtain rfl : name = f.name := hname
    have hfield : (o.setting f).field = (o'.setting f).field := by
      rw [field_setting, field_setting]
    exact (h.given f v hm).unique (h'.given f v hm) rfl hfield
  · rw [h.absent f hf, h'.absent f hf]

theorem Configures.perm (h : Configures members) (hperm : members.Perm members') :
    Configures members' where
  distinct := (hperm.map Prod.fst).nodup_iff.mp h.distinct
  typed m hm := h.typed m (hperm.mem_iff.mpr hm)

theorem Describes.perm {o : Options} (h : Describes members o) (hperm : members.Perm members') :
    Describes members' o where
  given f v hm := h.given f v (hperm.mem_iff.mpr hm)
  absent f hf := h.absent f (mt (hperm.map Prod.fst).mem_iff.mp hf)

end UsageScan.Options
