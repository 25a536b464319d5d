import UsageScan.Proofs.Json.Number
import UsageScan.Proofs.Json.Reader
/-!
# Writing JSON texts

What `Json.render` writes for a value spells it, in every layout that adds nothing but blanks, if the
numbers in it are spelled as numbers. So it is read back as the value that was written, and two
values are never written as the same text.

## Main definitions

* `Json.Layout.Legal` — a layout that adds nothing but blanks
* `Json.Legal` — a value whose numbers are spelled as numbers

## Main results

* `Json.Legal.spells` — what is written for a value spells it
* `Json.Legal.parse?_render` — what is written for a value is read back as this value
-/

set_option autoImplicit false

namespace UsageScan.Json

/-! ### Layouts -/

/-- A layout that adds nothing but blanks. -/
structure Layout.Legal (layout : Layout) : Prop where
  separator (depth : Nat) : Blanks (layout.separator depth)
  colon : IsColon layout.colon

theorem Layout.legal_indented : Layout.indented.Legal where
  separator depth := by
    intro c hc
    rcases List.mem_cons.mp hc with rfl | hc
    · rfl
    · rw [List.eq_of_mem_replicate hc]
      rfl
  colon := ⟨[], [' '], .nil, by decide, rfl⟩

/-! ### Values -/

/-- A value whose numbers are spelled as numbers. -/
inductive Legal : Json → Prop
  | null : Legal .null
  | bool (b : Bool) : Legal (.bool b)
  | number {literal : String} : isNumber literal.toList = true → Legal (.number literal)
  | string (s : String) : Legal (.string s)
  | array {items : List Json} : (∀ v ∈ items, Legal v) → Legal (.array items)
  | object {members : List (String × Json)} : (∀ m ∈ members, Legal m.2) → Legal (.object members)

theorem legal_ofNat (n : Nat) : Legal (ofNat n) :=
  .number (isNumber_repr n)

/-- Texts behind the first one, each with a comma and blanks before it, make a list. -/
theorem listed_flatMap {before after : List Char} (hbefore : Blanks before) (hafter : Blanks after)
    (text : List Char) (texts : List (List Char)) :
    Listed (text :: texts)
      (before ++ text ++ (texts.flatMap fun t => ',' :: (before ++ t)) ++ after) := by
  induction texts generalizing text with
  | nil =>
    rw [List.flatMap_nil, List.append_nil]
    exact .one hbefore hafter
  | cons next texts ih =>
    -- No blanks are written before a comma.
    have hmore : Listed (text :: next :: texts) (before ++ text ++ [] ++ ',' :: _) :=
      .more hbefore .nil (ih next)
    simpa only [List.flatMap_cons, List.append_assoc, List.cons_append, List.nil_append] using hmore

section Render

variable {layout : Layout}

/-- A member with the text that is written for it. -/
def Member.written (layout : Layout) (depth : Nat) (m : String × Json) : Member :=
  ⟨m.1, quote m.1, layout.colon, m.2, renderAt layout depth m.2⟩

theorem renderItems_eq (depth : Nat) (items : List Json) : renderItems layout depth items =
    (items.map (renderAt layout depth)).flatMap fun t => ',' :: (layout.separator depth ++ t) := by
  induction items with
  | nil => rw [renderItems, List.map_nil, List.flatMap_nil]
  | cons item items ih => rw [renderItems, ih, List.map_cons, List.flatMap_cons]

theorem renderMembers_eq (depth : Nat) (members : List (String × Json)) :
    renderMembers layout depth members =
      (members.map (Member.text ∘ Member.written layout depth)).flatMap
        fun t => ',' :: (layout.separator depth ++ t) := by
  induction members with
  | nil => rw [renderMembers, List.map_nil, List.flatMap_nil]
  | cons m members ih =>
    obtain ⟨name, value⟩ := m
    rw [renderMembers, ih, List.map_cons, List.flatMap_cons]
    simp only [Function.comp_apply, Member.text, Member.written, List.append_assoc]

variable (hlayout : layout.Legal)
include hlayout

/-- An array is written as the list of its items. -/
theorem exists_renderAt_array (depth : Nat) (items : List Json) : ∃ body,
    renderAt layout depth (.array items) = '[' :: (body ++ [']']) ∧
      Listed (items.map (renderAt layout (depth + 1))) body := by
  cases items with
  | nil => exact ⟨[], by rw [renderAt]; rfl, .none .nil⟩
  | cons item items =>
    refine ⟨_, ?_, listed_flatMap (hlayout.separator (depth + 1)) (hlayout.separator depth) _ _⟩
    rw [renderAt, renderItems_eq]
    simp only [List.append_assoc, List.cons_append]

/-- An object is written as the list of its members. -/
theorem exists_renderAt_object (depth : Nat) (members : List (String × Json)) : ∃ body,
    renderAt layout depth (.object members) = '{' :: (body ++ ['}']) ∧
      Listed (members.map (Member.text ∘ Member.written layout (depth + 1))) body := by
  cases members with
  | nil => exact ⟨[], by rw [renderAt]; rfl, .none .nil⟩
  | cons m members =>
    refine ⟨_, ?_, listed_flatMap (hlayout.separator (depth + 1)) (hlayout.separator depth) _ _⟩
    obtain ⟨name, value⟩ := m
    rw [renderAt, renderMembers_eq]
    simp only [Function.comp_apply, Member.text, Member.written, List.append_assoc,
      List.cons_append]

/-- What is written for a value spells it. -/
theorem Legal.spells {v : Json} (h : Legal v) (depth : Nat) :
    Spells v (renderAt layout depth v) := by
  induction h generalizing depth with
  | null => rw [renderAt]; exact .null
  | bool b => cases b <;> rw [renderAt] <;> constructor
  | number h => rw [renderAt]; exact .number h
  | string s => rw [renderAt]; exact .string (spellsString_quote s)
  | @array items _ ih =>
    obtain ⟨body, hbody, hlisted⟩ := exists_renderAt_array hlayout depth items
    have hspells : Spells (.array ((items.map fun v => (v, renderAt layout (depth + 1) v)).map
        Prod.fst)) ('[' :: (body ++ [']'])) := by
      refine .array ?_ (by rwa [List.map_map])
      intro item hitem
      obtain ⟨v, hv, rfl⟩ := List.mem_map.mp hitem
      exact ih v hv (depth + 1)
    have hitems : (items.map fun v => (v, renderAt layout (depth + 1) v)).map Prod.fst = items := by
      rw [List.map_map]
      exact List.map_id items
    rw [hbody]
    rwa [hitems] at hspells
  | @object members _ ih =>
    obtain ⟨body, hbody, hlisted⟩ := exists_renderAt_object hlayout depth members
    have hspells : Spells (.object ((members.map (Member.written layout (depth + 1))).map
        Member.toPair)) ('{' :: (body ++ ['}'])) := by
      refine .object ?_ ?_ ?_ (by rwa [List.map_map]) <;> intro m hm <;>
        obtain ⟨m, hmem, rfl⟩ := List.mem_map.mp hm
      · exact spellsString_quote m.1
      · exact hlayout.colon
      · exact ih m hmem (depth + 1)
    have hmembers : (members.map (Member.written layout (depth + 1))).map Member.toPair =
        members := by
      rw [List.map_map]
      exact List.map_id members
    rw [hbody]
    rwa [hmembers] at hspells

/-- What is written for a value is the text of a document. -/
theorem Legal.isDocument {v : Json} (h : Legal v) : IsDocument v (render layout v).toList :=
  ⟨[], renderAt layout 0 v, [], .nil, .nil, h.spells hlayout 0, by
    rw [render, String.toList_ofList, List.append_nil, List.nil_append]⟩

/-- What is written for a value is read back as this value. -/
theorem Legal.parse?_render {v : Json} (h : Legal v) : parse? (render layout v) = some v :=
  parse?_eq_some_iff.mpr (h.isDocument hlayout)

end Render

end UsageScan.Json
