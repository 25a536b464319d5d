/-!
# Message templates

A template is a text with numbered placeholders. Filling it puts one argument after another in the
place of its placeholder, each time over the text as the arguments before have left it.

## Main definitions

* `replaceAll` — replacing every occurrence of a text, from left to right
* `placeholder` — a number in braces
* `fill` — a template with its placeholders replaced
-/

set_option autoImplicit false

namespace UsageScan.Text

/-- Replaces the occurrences of `pattern` in a text, from left to right and without overlap. The
first `covered` characters belong to an occurrence that has been replaced already. -/
def replaceFrom (pattern replacement : List Char) : Nat → List Char → List Char
  | _, [] => []
  | covered + 1, _ :: cs => replaceFrom pattern replacement covered cs
  | 0, c :: cs =>
    if pattern.isPrefixOf (c :: cs) then
      replacement ++ replaceFrom pattern replacement (pattern.length - 1) cs
    else
      c :: replaceFrom pattern replacement 0 cs

/-- A text with every occurrence of `pattern` replaced, from left to right and without overlap. -/
def replaceAll (pattern replacement text : List Char) : List Char :=
  replaceFrom pattern replacement 0 text

/-- The placeholder of the argument with the given index. -/
def placeholder (index : Nat) : List Char :=
  '{' :: index.repr.toList ++ ['}']

/-- A template with the placeholders of the arguments replaced, one argument after another.
Placeholders without an argument stay. -/
def fill (template : String) (args : List String) : String :=
  .ofList <| args.zipIdx.foldl
    (fun text (arg, index) => replaceAll (placeholder index) arg.toList text) template.toList

end UsageScan.Text
