import UsageScan.Proofs.Grammar
/-!
# Spellings

Keywords, operators and delimiters are spelled in a few ways only, and their tokens are shown as
they are spelled.

## Main definitions

* `Token.Kind.isSpelled` — whether the tokens of a class have fixed spellings
* `spellings` — all of them

## Main results

* `Form.shown_mem_spellings`, `Scanner.text_mem_spellings` — what such a form and such a token show
-/

set_option autoImplicit false

namespace UsageScan

open Text

/-- Whether the tokens of a class have fixed spellings. -/
def Token.Kind.isSpelled : Token.Kind → Bool
  | keyword => true
  | operator => true
  | delimiter => true
  | identifier => false
  | number => false
  | string => false
  | comment => false
  | unknown => false

/-- The spellings of all keywords, operators and delimiters. -/
def spellings : List String :=
  keywords ++ (allOperators ++ Lexeme.delimiters.map fun c => .ofList [c])

namespace Form

theorem mem_spellings_of_wordKind {word : List Char} (h : (wordKind word).isSpelled = true) :
    String.ofList word ∈ spellings := by
  have hkeyword : isKeyword (.ofList word) = true := by
    by_contra hnot
    rw [wordKind, if_neg hnot] at h
    contradiction
  exact List.mem_append_left _ (List.contains_iff_mem.mp hkeyword)

theorem mem_spellings_of_operator {c : Char} {cs : List Char}
    (h : (operator c cs).1.kind.isSpelled = true) :
    String.ofList (operator c cs).1.shown ∈ spellings := by
  cases hfound : longestOperator? c cs with
  | none =>
    rw [operator, longestOperator?_take, hfound] at h
    contradiction
  | some op =>
    have hmem := mem_operatorSpellings_of_longestOperator? hfound
    have hshown : (operator c cs).1.shown = op.toList := by
      rw [operator_of_longestOperator? hfound]
      rfl
    rw [hshown, String.ofList_toList]
    exact List.mem_append_right _ (List.mem_append_left _ (List.mem_cons_of_mem _ hmem))

/-- A form of a class with fixed spellings shows one of them. -/
theorem shown_mem_spellings {c : Char} {cs : List Char}
    (h : (front c cs).1.kind.isSpelled = true) :
    String.ofList (front c cs).1.shown ∈ spellings := by
  have hdot : String.ofList ['.'] ∈ spellings := by decide
  -- Four of the branches make a form with a fixed spelling, and the other ones contradict `h`.
  unfold front at h ⊢
  split_ifs at h ⊢ with hstart hdigit hfirst hfraction hquote hline hblock hdelimiter
  · exact mem_spellings_of_wordKind h
  · contradiction
  · contradiction
  · rw [hfirst]
    exact hdot
  · contradiction
  · contradiction
  · unfold block at h
    split at h <;> contradiction
  · apply List.mem_append_right
    apply List.mem_append_right
    exact List.mem_map_of_mem (List.contains_iff_mem.mp hdelimiter)
  · exact mem_spellings_of_operator h

end Form

/-- A token of a class with fixed spellings shows one of them, if it is not clipped. -/
theorem Scanner.text_mem_spellings {source : String} {options : Options}
    (hlimit : options.maxTokenLength = none) {t : Token}
    (ht : t ∈ (ofSource source options).tokens) (hkind : t.kind.isSpelled = true) :
    t.text ∈ spellings := by
  obtain ⟨s, rfl⟩ := exists_site_of_mem_tokens ht
  rw [Site.kind_token] at hkind
  have hform := Form.shown_mem_spellings hkind
  rw [← s.form_passage] at hform
  rw [hlimit]
  exact hform

end UsageScan
