import UsageScan.Proofs.Json.Render
import UsageScan.Report
/-!
# Reading reports back

The text of a report is a JSON document, whatever names and messages are in the report. A reader of
JSON that knows nothing of reports finds in it the names with their flags, the number of lines and
the warnings, each in order, and a location where there is one. So two reports are never written as
the same text.

## Main definitions

* `Report.ofJson?` — the report that a value stands for
* `Faithful` — what can be found in the text of a report

## Main results

* `Report.ofJson?_toJson` — a report is found in its value
* `faithful_report` — what can be found in the text of any report
-/

set_option autoImplicit false

namespace UsageScan

/-! ### Reports in values -/

/-- The value of the first member with a name. -/
def Json.member? (name : String) : Json → Option Json
  | .object members => (members.find? (·.1 == name)).map Prod.snd
  | _ => none

/-- A natural number, spelled with digits alone. -/
def Json.nat? : Json → Option Nat
  | .number literal =>
    if isDigits literal.toList then some (digitsValue literal.toList) else none
  | _ => none

/-- A location with its line and its column. -/
def Location.ofJson? : Json → Option Location
  | .object [("line", line), ("column", column)] => do
    let line ← line.nat?
    let column ← column.nat?
    some ⟨line, column⟩
  | _ => none

namespace Report

/-- A name with its flag. -/
def Variable.ofJson? : Json → Option Variable
  | .object [("name", .string name), ("used", .bool used)] => some ⟨name, used⟩
  | _ => none

/-- A warning with its message, and with its location if it has one. -/
def Entry.ofJson? : Json → Option Entry
  | .object [("message", .string message)] => some ⟨message, none⟩
  | .object [("message", .string message), ("location", location)] =>
    (Location.ofJson? location).map fun l => ⟨message, some l⟩
  | _ => none

/-- The report that a value stands for. Nothing but its members may stand in it, in their order. -/
def ofJson? : Json → Option Report
  | .object [("variables", .array declared), ("total_lines", totalLines),
      ("warnings", .array warnings)] => do
    let declared ← declared.mapM Variable.ofJson?
    let totalLines ← totalLines.nat?
    let warnings ← warnings.mapM Entry.ofJson?
    some ⟨declared, totalLines, warnings⟩
  | _ => none

end Report

/-! ### Finding what was written -/

@[simp] theorem Json.nat?_ofNat (n : Nat) : (Json.ofNat n).nat? = some n := by
  have hdigits : isDigits n.repr.toList = true := isDigits_repr n
  simp only [ofNat, nat?, hdigits, digitsValue_repr, if_true]

theorem Location.ofJson?_toJson (l : Location) : ofJson? l.toJson = some l := by
  simp only [toJson, ofJson?, Json.nat?_ofNat, Option.bind_eq_bind, Option.bind_some]

namespace Report

theorem Entry.ofJson?_toJson (e : Entry) : ofJson? e.toJson = some e := by
  obtain ⟨message, location⟩ := e
  cases location with
  | none => rfl
  | some l => simp only [toJson, ofJson?, Location.ofJson?_toJson, Option.map_some]

/-- A list whose elements are found in their values is found in the list of these. -/
theorem mapM_map {α β : Type} {f : α → β} {g : β → Option α} (h : ∀ a, g (f a) = some a)
    (as : List α) : (as.map f).mapM g = some as := by
  induction as with
  | nil => rfl
  | cons a as ih =>
    rw [List.map_cons, List.mapM_cons, h, ih]
    rfl

/-- A report is found in its value. -/
theorem ofJson?_toJson (r : Report) : ofJson? r.toJson = some r := by
  have hdeclared := mapM_map (f := Variable.toJson) (g := Variable.ofJson?) (fun _ => rfl)
    r.declared
  have hwarnings := mapM_map Entry.ofJson?_toJson r.warnings
  simp only [toJson, ofJson?, hdeclared, hwarnings, Json.nat?_ofNat, Option.bind_eq_bind,
    Option.bind_some]

/-! ### Writing reports -/

theorem legal_location (l : Location) : l.toJson.Legal := by
  refine .object ?_
  simp only [List.forall_mem_cons, Json.legal_ofNat, true_and]
  exact fun _ h => (List.not_mem_nil h).elim

/-- The numbers in the value of a report are spelled as numbers. -/
theorem legal_toJson (r : Report) : r.toJson.Legal := by
  have hnil {P : String × Json → Prop} : ∀ m ∈ ([] : List (String × Json)), P m :=
    fun _ h => (List.not_mem_nil h).elim
  have hdeclared : ∀ v ∈ r.declared.map Variable.toJson, v.Legal := by
    intro v hv
    obtain ⟨d, -, rfl⟩ := List.mem_map.mp hv
    exact .object (List.forall_mem_cons.mpr ⟨.string _, List.forall_mem_cons.mpr ⟨.bool _, hnil⟩⟩)
  have hwarnings : ∀ v ∈ r.warnings.map Entry.toJson, v.Legal := by
    intro v hv
    obtain ⟨w, -, rfl⟩ := List.mem_map.mp hv
    refine .object (List.forall_mem_cons.mpr ⟨.string _, ?_⟩)
    cases w.location with
    | none => exact hnil
    | some l => exact List.forall_mem_cons.mpr ⟨legal_location l, hnil⟩
  exact .object (List.forall_mem_cons.mpr ⟨.array hdeclared,
    List.forall_mem_cons.mpr ⟨Json.legal_ofNat _, List.forall_mem_cons.mpr ⟨.array hwarnings, hnil⟩⟩⟩)

theorem parse?_render (r : Report) : Json.parse? r.render = some r.toJson :=
  r.legal_toJson.parse?_render Json.Layout.legal_indented

/-- Read as JSON, the text of a report is the report. -/
theorem ofJson?_parse?_render (r : Report) : (Json.parse? r.render).bind ofJson? = some r := by
  rw [parse?_render, Option.bind_some, ofJson?_toJson]

end Report

/-- What can be found in the text of a report. -/
structure Faithful (r : Report) : Prop where
  /-- The text spells the value of the report, and so does the contents of a report file. -/
  document : Json.IsDocument r.toJson r.render.toList
  file : Json.IsDocument r.toJson r.fileText.toList
  /-- It spells no other value. -/
  unambiguous : ∀ v, Json.IsDocument v r.render.toList → v = r.toJson
  /-- Read as JSON, it is the report with all that is in it. -/
  read : (Json.parse? r.render).bind Report.ofJson? = some r
  /-- Of the warnings, just those with a location have such a member. -/
  locations : ∀ w ∈ r.warnings, w.toJson.member? "location" = w.location.map Location.toJson
  /-- No other report has this text. -/
  injective : ∀ r' : Report, r'.render = r.render → r' = r

/-- What can be found in the text of any report. -/
theorem faithful_report (r : Report) : Faithful r where
  document := Json.parse?_eq_some_iff.mp r.parse?_render
  file := by
    -- The line break that ends the file is a blank behind the document.
    obtain ⟨before, text, after, hbefore, hafter, hspells, htext⟩ :=
      Json.parse?_eq_some_iff.mp r.parse?_render
    have hbreak : Json.Blanks ['\n'] := by decide
    refine ⟨before, text, after ++ ['\n'], hbefore, ?_, hspells, ?_⟩
    · exact List.forall_mem_append.mpr ⟨hafter, hbreak⟩
    · rw [Report.fileText, String.toList_append, htext, List.append_assoc]
      rfl
  unambiguous v hv := by
    have hread := Json.parse?_eq_some_iff.mpr hv
    rw [r.parse?_render] at hread
    exact (Option.some.inj hread).symm
  read := r.ofJson?_parse?_render
  locations w _ := by
    obtain ⟨message, location⟩ := w
    cases location <;> rfl
  injective r' h := by
    have hread := r.ofJson?_parse?_render
    rw [← h, r'.ofJson?_parse?_render] at hread
    exact Option.some.inj hread

end UsageScan
