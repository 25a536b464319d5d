import UsageScan.Options.Reader
import UsageScan.Proofs.Json.Opening
import UsageScan.Proofs.Options.Setting
/-!
# Reading objects field by field

Of a text that spells an object, the members are read one after another. A member is read as the
setting that it gives, for a field that no member before it has named, and a member that gives none
is refused. So the text is accepted exactly if the object configures a run, and read as the options
that it describes. The order of the members does not matter, and neither does how their names, their
values and the blanks around them are spelled.

## Main definitions

* `Options.Setting.IsOpenedBy` — the values from which a setting is read, by how they open
* `Options.Inside` — what comes inside an object
* `Options.ReadByField` — how a text is read that spells an object

## Main results

* `Options.readSetting_spells_iff` — which values are read
* `Options.readMember_eq_ok_iff` — which members are read
* `Options.readMembers_inside_iff` — which objects are read
* `Options.objects_by_field` — how any text is read that spells an object
-/

set_option autoImplicit false

namespace UsageScan.Options

open Json (Blanks Ends Opens Spells SpellsString IsColon Member Listed IsDocument)

/-- How a text is read that spells an object with some members. -/
structure ReadByField (text : String) (members : List (String × Json)) : Prop where
  /-- It is accepted exactly if the members configure a run. -/
  accepted_iff : (∃ o, read text = .ok o) ↔ Configures members
  /-- Each field is what its member says, or else what it usually is. -/
  describe : ∀ o, read text = .ok o → Describes members o
  /-- The order of the members does not matter, nor does their spelling. -/
  any_order : ∀ text' members', members'.Perm members →
    IsDocument (.object members') text'.toList → ∀ o, read text' = .ok o ↔ read text = .ok o

variable {rest rest' : List Char}

/-! ### Values -/

/-- A setting is read from a value that opens in some way. -/
inductive Setting.IsOpenedBy : Setting → Json.Opening → Prop
  | checkSemicolons (check : Bool) : IsOpenedBy (.checkSemicolons check) (.boolean check)
  | noLimit : IsOpenedBy (.maxTokenLength none) .null
  | limit (n : Nat) : IsOpenedBy (.maxTokenLength (some n)) (.number (.integer n))
  | defaultPath : IsOpenedBy (.statsPath none) .null
  | path (path : String) : IsOpenedBy (.statsPath (some path)) (.string path)
  | trace (tokens : Bool) : IsOpenedBy (.trace tokens) (.boolean tokens)

theorem readOpening_eq_ok_iff {cs : List Char} {found : Json.Opening} :
    readOpening cs = .ok (found, rest) ↔ Json.readOpening cs = .ok (found, rest) := by
  rw [readOpening]
  cases Json.readOpening cs <;> simp [Except.mapError]

theorem readSetting_eq_ok_iff {field : Field} {cs : List Char} {s : Setting} :
    readSetting field cs = .ok (s, rest) ↔ s.field = field ∧
      ∃ found, Json.readOpening cs = .ok (found, rest) ∧ s.IsOpenedBy found := by
  rw [readSetting, bind_eq_ok]
  constructor
  · rintro ⟨⟨found, behind⟩, hopen, h⟩
    rw [readOpening_eq_ok_iff] at hopen
    dsimp only at h
    split at h
    case h_4 n =>
      -- Of the values of the right type, an integer alone may still be refused, for its sign.
      split at h
      case isTrue => contradiction
      case isFalse hpos =>
        cases h
        obtain ⟨k, rfl⟩ := Int.eq_ofNat_of_zero_le (Int.not_lt.mp hpos)
        exact ⟨rfl, _, hopen, .limit k⟩
    all_goals cases h
    · exact ⟨rfl, _, hopen, .checkSemicolons _⟩
    · exact ⟨rfl, _, hopen, .noLimit⟩
    · exact ⟨rfl, _, hopen, .defaultPath⟩
    · exact ⟨rfl, _, hopen, .path _⟩
    · exact ⟨rfl, _, hopen, .trace _⟩
  · rintro ⟨rfl, found, hopen, hs⟩
    refine ⟨(found, rest), readOpening_eq_ok_iff.mpr hopen, ?_⟩
    cases hs with
    | limit n => exact if_neg (Int.not_lt.mpr (Int.natCast_nonneg n))
    | checkSemicolons | noLimit | defaultPath | path | trace => rfl

/-- A scalar that is no number, with all of it told by how it opens. -/
inductive IsScalar : Json → Json.Opening → Prop
  | null : IsScalar .null .null
  | bool (b : Bool) : IsScalar (.bool b) (.boolean b)
  | string (s : String) : IsScalar (.string s) (.string s)

theorem IsScalar.isOpenedBy_iff {v : Json} {found : Json.Opening} (h : IsScalar v found)
    {s : Setting} : s.IsOpenedBy found ↔ s.IsGivenBy v := by
  cases h <;> constructor <;> (intro hs; cases hs <;> constructor)

theorem IsScalar.exists_isOpenedBy_iff {v : Json} {found : Json.Opening} (h : IsScalar v found)
    {cs : List Char} (hopen : Json.readOpening cs = .ok (found, rest)) {s : Setting} :
    (∃ found, Json.readOpening cs = .ok (found, rest') ∧ s.IsOpenedBy found) ↔
      rest' = rest ∧ s.IsGivenBy v := by
  rw [hopen, ← h.isOpenedBy_iff]
  constructor
  · rintro ⟨found', hfound, hs⟩
    cases hfound
    exact ⟨rfl, hs⟩
  · rintro ⟨rfl, hs⟩
    exact ⟨found, rfl, hs⟩

theorem exists_isOpenedBy_number_iff {literal : String} {s : Setting}
    (h : Json.isNumber literal.toList = true) (hrest : Ends rest) :
    (∃ found, Json.readOpening (literal.toList ++ rest) = .ok (found, rest') ∧
        s.IsOpenedBy found) ↔ rest' = rest ∧ s.IsGivenBy (.number literal) := by
  constructor
  · rintro ⟨found, hopen, hs⟩
    obtain ⟨n, rfl⟩ := Json.exists_number_of_readOpening h hopen
    cases hs with
    | limit k =>
      obtain ⟨rfl, rfl, hfits⟩ := (Json.readOpening_eq_natural_iff h hrest).mp hopen
      exact ⟨rfl, .limit hfits⟩
  · rintro ⟨rfl, hs⟩
    cases hs with
    | @limit k hfits =>
      exact ⟨_, (Json.readOpening_eq_natural_iff h hrest).mpr ⟨rfl, rfl, hfits⟩, .limit k⟩

/-- A setting is read from the text of a value exactly if the value gives it. -/
theorem exists_isOpenedBy_iff {v : Json} {text : List Char} {s : Setting} (hv : Spells v text)
    (hrest : Ends rest) :
    (∃ found, Json.readOpening (text ++ rest) = .ok (found, rest') ∧ s.IsOpenedBy found) ↔
      rest' = rest ∧ s.IsGivenBy v := by
  cases hv with
  | null => exact IsScalar.null.exists_isOpenedBy_iff rfl
  | true => exact (IsScalar.bool true).exists_isOpenedBy_iff rfl
  | false => exact (IsScalar.bool false).exists_isOpenedBy_iff rfl
  | number h => exact exists_isOpenedBy_number_iff h hrest
  | string h => exact (IsScalar.string _).exists_isOpenedBy_iff (h.readOpening rest)
  | array | object =>
    -- Neither a bracket nor what it opens gives a setting.
    constructor
    · rintro ⟨found, hopen, hs⟩
      cases hopen
      cases hs
    · rintro ⟨-, hs⟩
      cases hs

/-- The value of a field is read exactly if it gives a setting for the field. -/
theorem readSetting_spells_iff {v : Json} {before text : List Char} {field : Field} {s : Setting}
    (hbefore : Blanks before) (hv : Spells v text) (hrest : Ends rest) :
    readSetting field (before ++ (text ++ rest)) = .ok (s, rest') ↔
      rest' = rest ∧ s.field = field ∧ s.IsGivenBy v := by
  rw [readSetting_eq_ok_iff, Json.readOpening_blanks_append hbefore,
    exists_isOpenedBy_iff hv hrest, and_left_comm]

/-! ### Members -/

/-- A field may be named if it is one of those that remain. -/
theorem allowedField_eq_ok_iff {remaining : List Field} {name : String} {field : Field} :
    allowedField remaining name = .ok field ↔ field.name = name ∧ field ∈ remaining := by
  unfold allowedField
  constructor
  · intro h
    split at h
    case h_1 => contradiction
    case h_2 found hfound =>
      split at h
      case isTrue hmem =>
        cases h
        exact ⟨Field.name_of_ofName? hfound, hmem⟩
      case isFalse => contradiction
  · rintro ⟨rfl, hmem⟩
    rw [Field.ofName?_name]
    exact if_pos hmem

/-- The name of a member is read with the colon behind it. -/
theorem readField_eq_ok_iff {remaining : List Field} {name : String} {field : Field}
    {inside blanks more : List Char} (hname : Json.SpellsChars name.toList inside)
    (hblanks : Blanks blanks) :
    readField remaining (inside ++ '"' :: (blanks ++ ':' :: more)) = .ok (field, rest') ↔
      rest' = more ∧ field.name = name ∧ field ∈ remaining := by
  have hread : Json.readString (inside ++ '"' :: (blanks ++ ':' :: more)) =
      .ok (name, blanks ++ ':' :: more) :=
    Json.readString_eq_ok_iff.mpr ⟨inside, hname, rfl⟩
  have hcolon : readColon (blanks ++ ':' :: more) = .ok more := by
    rw [readColon, Json.skipBlanks_blanks_append hblanks ⟨':', more, rfl, by decide⟩]
    rfl
  rw [readField, hread, ← allowedField_eq_ok_iff, bind_eq_ok]
  constructor
  · rintro ⟨p, hp, h⟩
    cases hp
    obtain ⟨allowed, hallowed, h⟩ := bind_eq_ok.mp h
    obtain ⟨behind, hbehind, h⟩ := bind_eq_ok.mp h
    cases hcolon.symm.trans hbehind
    cases h
    exact ⟨rfl, hallowed⟩
  · rintro ⟨rfl, hallowed⟩
    refine ⟨(name, blanks ++ ':' :: rest'), rfl, ?_⟩
    simp only [hallowed, hcolon, bind, Except.bind]

/-- A member is spelled by its text. -/
structure SpellsMember (m : Member) : Prop where
  name : SpellsString m.name m.nameText
  colon : IsColon m.colon
  value : Spells m.value m.valueText

/-- A member is read, from behind its opening quotation mark, exactly if it gives a setting for a
field that remains. -/
theorem readMember_eq_ok_iff {remaining : List Field} {m : Member} (hm : SpellsMember m)
    {cs : List Char} (hcs : '"' :: cs = m.text ++ rest) (hrest : Ends rest) {s : Setting} :
    (∃ field behind, readField remaining cs = .ok (field, behind) ∧
        readSetting field behind = .ok (s, rest')) ↔
      rest' = rest ∧ s.field ∈ remaining ∧ s.IsMember m.toPair := by
  obtain ⟨inside, hinside, hnameText⟩ := hm.name
  obtain ⟨before, after, hbefore, hafter, hcolon⟩ := hm.colon
  obtain rfl : cs = inside ++ '"' :: (before ++ ':' :: (after ++ (m.valueText ++ rest))) := by
    rw [Member.text, hnameText, hcolon] at hcs
    simpa using hcs
  constructor
  · rintro ⟨field, behind, hfield, hsetting⟩
    obtain ⟨rfl, hname, hmem⟩ := (readField_eq_ok_iff hinside hbefore).mp hfield
    obtain ⟨rfl, rfl, hgiven⟩ := (readSetting_spells_iff hafter hm.value hrest).mp hsetting
    exact ⟨rfl, hmem, hname, hgiven⟩
  · rintro ⟨rfl, hmem, hname, hgiven⟩
    exact ⟨s.field, _, (readField_eq_ok_iff hinside hbefore).mpr ⟨rfl, hname, hmem⟩,
      (readSetting_spells_iff hafter hm.value hrest).mpr ⟨rfl, rfl, hgiven⟩⟩

/-! ### Objects -/

/-- What comes in an object, before the first one of some members or behind the last one that has
been read: the members, with commas between them, the closing brace, and what comes behind it. -/
inductive Inside (rest : List Char) : Bool → List (List Char) → List Char → Prop
  | opened {texts : List (List Char)} {body : List Char} : Listed texts body →
      Inside rest true texts (body ++ '}' :: rest)
  | last {blanks : List Char} : Blanks blanks → Inside rest false [] (blanks ++ '}' :: rest)
  | more {blanks text body : List Char} {texts : List (List Char)} : Blanks blanks →
      Listed (text :: texts) body →
      Inside rest false (text :: texts) (blanks ++ ',' :: (body ++ '}' :: rest))

/-- The closing brace comes where no member is left. -/
theorem Inside.readMemberStart_nil {first : Bool} {cs : List Char}
    (h : Inside rest first [] cs) : readMemberStart first cs = .ok (false, rest) := by
  have hclosing {blanks : List Char} (hblanks : Blanks blanks) :
      readMemberStart first (blanks ++ '}' :: rest) = .ok (false, rest) := by
    rw [readMemberStart, Json.skipBlanks_append hblanks]
    rfl
  cases h with
  | opened hlisted =>
    cases hlisted with
    | none hblanks => exact hclosing hblanks
  | last hblanks => exact hclosing hblanks

/-- Behind the text of the first one of some members, either the brace comes or a comma. -/
theorem exists_inside_of_listed {text body : List Char} {texts : List (List Char)}
    (h : Listed (text :: texts) body) : ∃ before behind, Blanks before ∧
      body ++ '}' :: rest = before ++ (text ++ behind) ∧ Inside rest false texts behind := by
  cases h with
  | one hbefore hafter => exact ⟨_, _, hbefore, by simp, .last hafter⟩
  | more hbefore hafter hmore => exact ⟨_, _, hbefore, by simp, .more hafter hmore⟩

/-- A member comes where one is left. -/
theorem Inside.readMemberStart_cons {first : Bool} {text cs : List Char} {texts : List (List Char)}
    (h : Inside rest first (('"' :: text) :: texts) cs) : ∃ behind,
      readMemberStart first cs = .ok (true, text ++ behind) ∧ Inside rest false texts behind := by
  have hopens (behind : List Char) : Opens ('"' :: text ++ behind) := ⟨'"', _, rfl, by decide⟩
  cases h with
  | opened hlisted =>
    obtain ⟨before, behind, hbefore, hbody, hinside⟩ := exists_inside_of_listed hlisted
    refine ⟨behind, ?_, hinside⟩
    rw [hbody, readMemberStart, Json.skipBlanks_blanks_append hbefore (hopens behind)]
    rfl
  | more hblanks hlisted =>
    obtain ⟨before, behind, hbefore, hbody, hinside⟩ := exists_inside_of_listed hlisted
    refine ⟨behind, ?_, hinside⟩
    have hskip : Json.skipBlanks (',' :: (before ++ ('"' :: text ++ behind))) =
        ',' :: (before ++ ('"' :: text ++ behind)) := rfl
    have hskip' := Json.skipBlanks_blanks_append hbefore (hopens behind)
    rw [hbody, readMemberStart, Json.skipBlanks_append hblanks, hskip]
    split
    case h_1 => contradiction
    case h_2 heq => exact absurd (List.cons.inj heq).1 (by decide)
    case h_3 c cs _ hcs =>
      cases hcs
      simp only [bne_self_eq_false, Bool.and_false, Bool.false_eq_true, if_false, hskip']
      rfl

theorem Inside.ends {texts : List (List Char)} {cs : List Char} (h : Inside rest false texts cs) :
    Ends cs := by
  cases h with
  | last hblanks => exact .blanks_append hblanks (.cons (by decide) rest)
  | more hblanks hlisted => exact .blanks_append hblanks (.cons (by decide) _)

/-- Reading members goes one member at a time. -/
theorem readMembers_eq_ok_iff {remaining : List Field} {first : Bool} {cs : List Char}
    {settings : List Setting} : readMembers remaining first cs = .ok (settings, rest) ↔
      (readMemberStart first cs = .ok (false, rest) ∧ settings = []) ∨
      ∃ cs' field behind s behind' more, readMemberStart first cs = .ok (true, cs') ∧
        readField remaining cs' = .ok (field, behind) ∧
        readSetting field behind = .ok (s, behind') ∧
        readMembers (remaining.erase field) false behind' = .ok (more, rest) ∧
        settings = s :: more := by
  rw [readMembers, bind_eq_ok]
  constructor
  · rintro ⟨⟨next, cs'⟩, hstart, h⟩
    cases next with
    | false =>
      cases h
      exact .inl ⟨hstart, rfl⟩
    | true =>
      dsimp only at h
      split at h
      case h_1 => contradiction
      case h_2 field behind hfield =>
        obtain ⟨⟨s, behind'⟩, hsetting, h⟩ := bind_eq_ok.mp h
        obtain ⟨⟨more, rest'⟩, hmore, h⟩ := bind_eq_ok.mp h
        cases h
        exact .inr ⟨cs', field, behind, s, behind', more, hstart, hfield, hsetting, hmore, rfl⟩
  · rintro (⟨hstart, rfl⟩ | ⟨cs', field, behind, s, behind', more, hstart, hfield, hsetting, hmore,
      rfl⟩)
    · exact ⟨_, hstart, rfl⟩
    · refine ⟨_, hstart, ?_⟩
      dsimp only
      split
      case h_1 hfault =>
        rw [hfield] at hfault
        contradiction
      case h_2 field' behind'' hfield' =>
        cases hfield.symm.trans hfield'
        simp only [hsetting, hmore, bind, Except.bind]

/-- The text of a member begins with the quotation mark of its name. -/
theorem SpellsMember.exists_text {m : Member} (hm : SpellsMember m) :
    ∃ text, m.text = '"' :: text := by
  obtain ⟨inside, -, hname⟩ := hm.name
  exact ⟨_, by rw [Member.text, hname]; rfl⟩

/-- The members of an object are read exactly if they give settings for distinct fields that
remain. -/
theorem readMembers_inside_iff {members : List Member} (hmembers : ∀ m ∈ members, SpellsMember m)
    {remaining : List Field} (hremaining : remaining.Nodup) {first : Bool} {cs : List Char}
    (h : Inside rest first (members.map Member.text) cs) {settings : List Setting} :
    readMembers remaining first cs = .ok (settings, rest') ↔
      rest' = rest ∧ Gives remaining (members.map Member.toPair) settings := by
  -- A member that is read takes its field away from those that remain for the members behind it.
  induction members generalizing remaining first cs settings with
  | nil =>
    rw [List.map_nil, gives_nil_iff, readMembers_eq_ok_iff, h.readMemberStart_nil]
    constructor
    · rintro (⟨hend, rfl⟩ | ⟨cs', field, behind, s, behind', more, hnext, -⟩)
      · cases hend
        exact ⟨rfl, rfl⟩
      · cases hnext
    · rintro ⟨rfl, rfl⟩
      exact .inl ⟨rfl, rfl⟩
  | cons m members ih =>
    obtain ⟨hm, hmembers⟩ := List.forall_mem_cons.mp hmembers
    obtain ⟨text, htext⟩ := hm.exists_text
    rw [List.map_cons, htext] at h
    obtain ⟨behind, hstart, hinside⟩ := h.readMemberStart_cons
    have hmember (s : Setting) (rest' : List Char) :
        (∃ field cs', readField remaining (text ++ behind) = .ok (field, cs') ∧
            readSetting field cs' = .ok (s, rest')) ↔
          rest' = behind ∧ s.field ∈ remaining ∧ s.IsMember m.toPair :=
      readMember_eq_ok_iff hm (by rw [htext, List.cons_append]) hinside.ends
    rw [List.map_cons, gives_cons_iff hremaining, readMembers_eq_ok_iff, hstart]
    constructor
    · rintro (⟨hend, -⟩ | ⟨cs', field, cs₁, s, cs₂, more, hnext, hfield, hsetting, hmore, rfl⟩)
      · cases hend
      · cases hnext
        obtain ⟨rfl, hmem, hgiven⟩ := (hmember s _).mp ⟨field, cs₁, hfield, hsetting⟩
        obtain rfl := (readSetting_eq_ok_iff.mp hsetting).1
        obtain ⟨rfl, hmore⟩ := (ih hmembers (hremaining.erase _) hinside).mp hmore
        exact ⟨rfl, s, more, hmem, hgiven, hmore, rfl⟩
    · rintro ⟨rfl, s, more, hmem, hgiven, hmore, rfl⟩
      obtain ⟨field, cs₁, hfield, hsetting⟩ := (hmember s _).mpr ⟨rfl, hmem, hgiven⟩
      obtain rfl := (readSetting_eq_ok_iff.mp hsetting).1
      have hmore := (ih hmembers (hremaining.erase _) hinside).mpr ⟨rfl, hmore⟩
      exact .inr ⟨_, s.field, cs₁, s, behind, more, rfl, hfield, hsetting, hmore, rfl⟩

/-! ### Documents -/

/-- Read are the settings that the members of the object give. -/
theorem read_eq_ok_iff {text : String} {members : List (String × Json)}
    (h : IsDocument (.object members) text.toList) {o : Options} : read text = .ok o ↔
      ∃ settings, Gives Field.all members settings ∧ o = Options.default.applyAll settings := by
  obtain ⟨before, inside, after, hbefore, hafter, hspells, htext⟩ := h
  cases hspells with
  | @object members body hnames hcolons hvalues hlisted =>
    have hmembers : ∀ m ∈ members, SpellsMember m :=
      fun m hm => ⟨hnames m hm, hcolons m hm, hvalues m hm⟩
    have hopen : readOpening text.toList = .ok (.object, body ++ '}' :: after) := by
      rw [readOpening_eq_ok_iff, htext, List.append_assoc,
        Json.readOpening_blanks_append hbefore]
      simp only [List.cons_append, List.append_assoc, List.nil_append]
      rfl
    have hsettings : readSettings text.toList =
        readMembers Field.all true (body ++ '}' :: after) := by
      rw [readSettings, hopen]
      rfl
    have hend : Json.skipBlanks after = [] := List.dropWhile_eq_nil_iff.mpr hafter
    have hread {settings : List Setting} {behind : List Char} :
        readMembers Field.all true (body ++ '}' :: after) = .ok (settings, behind) ↔
          behind = after ∧ Gives Field.all (members.map Member.toPair) settings :=
      readMembers_inside_iff hmembers (by decide) (.opened hlisted)
    rw [read, hsettings, bind_eq_ok]
    constructor
    · rintro ⟨⟨settings, behind⟩, hsome, h⟩
      obtain ⟨rfl, hgive⟩ := hread.mp hsome
      dsimp only at h
      rw [if_pos hend] at h
      cases h
      exact ⟨settings, hgive, rfl⟩
    · rintro ⟨settings, hgive, rfl⟩
      exact ⟨(settings, after), hread.mpr ⟨rfl, hgive⟩, if_pos hend⟩

/-- A text is read as the options that its members describe, if they configure a run. -/
theorem read_eq_ok_iff_describes {text : String} {members : List (String × Json)}
    (h : IsDocument (.object members) text.toList) {o : Options} :
    read text = .ok o ↔ Configures members ∧ Describes members o := by
  rw [read_eq_ok_iff h, ← exists_gives_iff]
  constructor
  · rintro ⟨settings, hgive, rfl⟩
    exact ⟨⟨settings, hgive⟩, hgive.describes⟩
  · rintro ⟨⟨settings, hgive⟩, hdescribe⟩
    exact ⟨settings, hgive, hdescribe.unique hgive.describes⟩

/-- How any text is read that spells an object. -/
theorem objects_by_field {text : String} {members : List (String × Json)}
    (h : IsDocument (.object members) text.toList) : ReadByField text members where
  accepted_iff := by
    rw [← exists_gives_iff]
    constructor
    · rintro ⟨o, hread⟩
      obtain ⟨settings, hgive, -⟩ := (read_eq_ok_iff h).mp hread
      exact ⟨settings, hgive⟩
    · rintro ⟨settings, hgive⟩
      exact ⟨_, (read_eq_ok_iff h).mpr ⟨settings, hgive, rfl⟩⟩
  describe o hread := ((read_eq_ok_iff_describes h).mp hread).2
  any_order text' members' hperm h' o := by
    rw [read_eq_ok_iff_describes h, read_eq_ok_iff_describes h']
    constructor
    · rintro ⟨hconfigure, hdescribe⟩
      exact ⟨hconfigure.perm hperm, hdescribe.perm hperm⟩
    · rintro ⟨hconfigure, hdescribe⟩
      exact ⟨hconfigure.perm hperm.symm, hdescribe.perm hperm.symm⟩

/-- Blanks, escapes in names and the order of the members make no difference. A name that is
spelled in two ways is repeated all the same. -/
theorem objects_by_field_escaped :
    IsDocument (.object [("maxTokenLength", .number "3"), ("trace", .bool false)])
        " \x7b \"maxTokenLength\" : 3 ,\n\"\\u0074race\":false \x7d ".toList ∧
      ReadByField " \x7b \"maxTokenLength\" : 3 ,\n\"\\u0074race\":false \x7d "
        [("maxTokenLength", .number "3"), ("trace", .bool false)] ∧
      read " \x7b \"maxTokenLength\" : 3 ,\n\"\\u0074race\":false \x7d " =
        .ok ⟨false, some 3, none, false⟩ ∧
      read "\x7b\"trace\":false,\"maxTokenLength\":3\x7d" = .ok ⟨false, some 3, none, false⟩ ∧
      ReadByField "\x7b\"trace\":true,\"\\u0074race\":true\x7d"
        [("trace", .bool true), ("trace", .bool true)] ∧
      ∀ o, read "\x7b\"trace\":true,\"\\u0074race\":true\x7d" ≠ .ok o := by
  have hdocument : IsDocument (.object [("maxTokenLength", .number "3"), ("trace", .bool false)])
      " \x7b \"maxTokenLength\" : 3 ,\n\"\\u0074race\":false \x7d ".toList :=
    Json.parse?_eq_some_iff.mp (by with_unfolding_all rfl)
  have hswapped : IsDocument (.object [("trace", .bool false), ("maxTokenLength", .number "3")])
      "\x7b\"trace\":false,\"maxTokenLength\":3\x7d".toList :=
    Json.parse?_eq_some_iff.mp (by with_unfolding_all rfl)
  have hrepeated : IsDocument (.object [("trace", .bool true), ("trace", .bool true)])
      "\x7b\"trace\":true,\"\\u0074race\":true\x7d".toList :=
    Json.parse?_eq_some_iff.mp (by with_unfolding_all rfl)
  have hfields := objects_by_field hdocument
  have hread : read " \x7b \"maxTokenLength\" : 3 ,\n\"\\u0074race\":false \x7d " =
      .ok ⟨false, some 3, none, false⟩ := by decide +kernel
  refine ⟨hdocument, hfields, hread, ?_, objects_by_field hrepeated, ?_⟩
  · exact (hfields.any_order _ _ (.swap ..) hswapped _).mpr hread
  · intro o ho
    have hconfigures := (objects_by_field hrepeated).accepted_iff.mp ⟨o, ho⟩
    exact absurd hconfigures.distinct (by decide)

end UsageScan.Options
