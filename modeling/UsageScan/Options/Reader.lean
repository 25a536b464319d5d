import UsageScan.Options.Fault
/-!
# Reading configurations

A configuration is a JSON object whose members are fields of the options, in any order and each at
most once, or a JSON array that gives the fields in their usual order. Fields that are not given
keep their default. Reading stops at the first fault from the left: a value of the wrong type is
refused where it opens, and a field that is unknown or was given before as soon as its name has been
read.

## Main definitions

* `readSetting` — the value of a field
* `readMembers`, `readItems` — the settings of an object or an array
* `read` — the options of a configuration
-/

set_option autoImplicit false

namespace UsageScan.Options

open Json (skipBlanks)

/-- How the value at the front of a text opens. -/
def readOpening (cs : List Char) : Except Fault (Json.Opening × List Char) :=
  (Json.readOpening cs).mapError .malformed

/-- The value of a field. -/
def readSetting (field : Field) (cs : List Char) : Except Fault (Setting × List Char) := do
  let (found, rest) ← readOpening cs
  match field, found with
  | .checkSemicolons, .boolean b => .ok (.checkSemicolons b, rest)
  | .checkSemicolons, found => .error (.invalidType found .boolean)
  | .maxTokenLength, .null => .ok (.maxTokenLength none, rest)
  | .maxTokenLength, .number (.integer n) =>
    if n < 0 then .error (.negativeSize n) else .ok (.maxTokenLength (some n.toNat), rest)
  | .maxTokenLength, found => .error (.invalidType found .size)
  | .statsPath, .null => .ok (.statsPath none, rest)
  | .statsPath, .string s => .ok (.statsPath (some s), rest)
  | .statsPath, found => .error (.invalidType found .string)
  | .trace, .boolean b => .ok (.trace b, rest)
  | .trace, found => .error (.invalidType found .boolean)

/-- The field of a name, which has to be one of those in `remaining`. -/
def allowedField (remaining : List Field) (name : String) : Except Fault Field :=
  match Field.ofName? name with
  | none => .error (.unknownField name)
  | some field => if field ∈ remaining then .ok field else .error (.duplicateField field)

/-- The text behind the colon that has to follow the name of a member. -/
def readColon (cs : List Char) : Except Fault (List Char) :=
  match skipBlanks cs with
  | [] => .error (.malformed (.ended .object))
  | ':' :: rest => .ok rest
  | _ => .error (.malformed .colonExpected)

/-- The field that a member names, from behind its opening quotation mark through the colon behind
the name. Only the fields in `remaining` may be named. -/
def readField (remaining : List Field) (cs : List Char) : Except Fault (Field × List Char) := do
  let (name, rest) ← (Json.readString cs).mapError .malformed
  let field ← allowedField remaining name
  .ok (field, ← readColon rest)

theorem mem_of_allowedField {remaining : List Field} {name : String} {field : Field}
    (h : allowedField remaining name = .ok field) : field ∈ remaining := by
  unfold allowedField at h
  split at h
  · contradiction
  · split at h
    · next hmem =>
      cases h
      exact hmem
    · contradiction

theorem mem_of_readField {remaining : List Field} {cs rest : List Char} {field : Field}
    (h : readField remaining cs = .ok (field, rest)) : field ∈ remaining := by
  simp only [readField, bind, Except.bind] at h
  split at h
  · contradiction
  · split at h
    · contradiction
    · next hfield =>
      split at h
      · contradiction
      · cases h
        exact mem_of_allowedField hfield

/-- Whether a member comes next in an object, and the text behind its opening quotation mark or
behind the closing brace. -/
def readMemberStart (first : Bool) (cs : List Char) : Except Fault (Bool × List Char) :=
  match skipBlanks cs with
  | [] => .error (.malformed (.ended .object))
  | '}' :: cs => .ok (false, cs)
  | c :: cs =>
    if !first && c != ',' then .error (.malformed .objectSeparatorExpected)
    else
      match if first then c :: cs else skipBlanks cs with
      | [] => .error (.malformed (.ended .value))
      | '"' :: cs => .ok (true, cs)
      | '}' :: _ => .error (.malformed .trailingComma)
      | _ => .error (.malformed .keyNotString)

/-- The settings of an object, from behind its opening brace or behind one of its members, through
its closing brace. Only the fields in `remaining` may be named. -/
def readMembers (remaining : List Field) (first : Bool) (cs : List Char) :
    Except Fault (List Setting × List Char) := do
  match ← readMemberStart first cs with
  | (false, rest) => .ok ([], rest)
  | (true, rest) =>
    match _h : readField remaining rest with
    | .error fault => .error fault
    | .ok (field, rest) =>
      let (setting, rest) ← readSetting field rest
      let (settings, rest) ← readMembers (remaining.erase field) false rest
      .ok (setting :: settings, rest)
termination_by remaining.length
decreasing_by
  have hmem := mem_of_readField _h
  rw [List.length_erase_of_mem hmem]
  exact Nat.sub_lt (List.length_pos_of_mem hmem) Nat.one_pos

/-- Whether an item comes next in an array, and the text in front of it or behind the closing
bracket. -/
def readItemStart (first : Bool) (cs : List Char) : Except Fault (Bool × List Char) :=
  match skipBlanks cs with
  | [] => .error (.malformed (.ended .list))
  | ']' :: cs => .ok (false, cs)
  | c :: cs =>
    if first then .ok (true, c :: cs)
    else if c != ',' then .error (.malformed .listSeparatorExpected)
    else
      match skipBlanks cs with
      | [] => .error (.malformed (.ended .value))
      | ']' :: _ => .error (.malformed .trailingComma)
      | cs => .ok (true, cs)

/-- The closing bracket of an array that already gives every field. -/
def readListEnd (cs : List Char) : Except Fault (List Char) :=
  match skipBlanks cs with
  | [] => .error (.malformed (.ended .list))
  | ']' :: cs => .ok cs
  | ',' :: cs =>
    match skipBlanks cs with
    | ']' :: _ => .error (.malformed .trailingComma)
    | _ => .error (.malformed .trailingCharacters)
  | _ => .error (.malformed .trailingCharacters)

/-- The settings of an array, from behind its opening bracket or behind one of its items, through
its closing bracket. The items give the fields in `remaining`, in this order. -/
def readItems (remaining : List Field) (first : Bool) (cs : List Char) :
    Except Fault (List Setting × List Char) :=
  match remaining with
  | [] => do .ok ([], ← readListEnd cs)
  | field :: remaining => do
    match ← readItemStart first cs with
    | (false, rest) => .ok ([], rest)
    | (true, rest) =>
      let (setting, rest) ← readSetting field rest
      let (settings, rest) ← readItems remaining false rest
      .ok (setting :: settings, rest)

/-- The settings of a configuration. -/
def readSettings (cs : List Char) : Except Fault (List Setting × List Char) := do
  match ← readOpening cs with
  | (.object, rest) => readMembers Field.all true rest
  | (.list, rest) => readItems Field.all true rest
  | (found, _) => .error (.invalidType found .options)

/-- The options of a configuration. Nothing but blanks may follow it. -/
def read (text : String) : Except Fault Options := do
  let (settings, rest) ← readSettings text.toList
  if skipBlanks rest = [] then .ok (Options.default.applyAll settings)
  else .error (.malformed .trailingCharacters)

end UsageScan.Options
