/-!
# JSON values and their texts

Values of JSON with numbers kept as they are spelled. A text is written in one of two layouts: on
one line, or with every element of an array or object on a line of its own. Strings are written
with as few escapes as the format allows.

## Main definitions

* `Json` — a value
* `Json.quote` — the text of a string
* `Json.Layout` — where line breaks and blanks go
* `Json.render` — the text of a value
-/

set_option autoImplicit false

namespace UsageScan

/-- A value of JSON. The members of an object are kept in order. -/
inductive Json where
  | null
  | bool (b : Bool)
  /-- A number as it is spelled. -/
  | number (literal : String)
  | string (s : String)
  | array (items : List Json)
  | object (members : List (String × Json))

namespace Json

/-- The number with the decimal digits of `n`. -/
def ofNat (n : Nat) : Json :=
  .number n.repr

/-- How a character is written inside a string. Besides the quotation mark and the backslash, only
control characters below the blank are escaped, by a letter if there is one for them. -/
def escape (c : Char) : List Char :=
  match c with
  | '"' => ['\\', '"']
  | '\\' => ['\\', '\\']
  | '\x08' => ['\\', 'b']
  | '\x0c' => ['\\', 'f']
  | '\n' => ['\\', 'n']
  | '\r' => ['\\', 'r']
  | '\t' => ['\\', 't']
  | c =>
    if c.toNat < 0x20 then
      ['\\', 'u', '0', '0', Nat.digitChar (c.toNat / 16), Nat.digitChar (c.toNat % 16)]
    else [c]

/-- The text of a string, in quotation marks. -/
def quote (s : String) : List Char :=
  '"' :: (s.toList.flatMap escape ++ ['"'])

/-- Where line breaks and blanks go. -/
structure Layout where
  /-- What stands before each element of an array or object, and before its closing bracket, given
  the number of brackets that are open there. -/
  separator : Nat → List Char
  /-- What stands between the name and the value of a member. -/
  colon : List Char

/-- Everything on one line. -/
def Layout.compact : Layout :=
  ⟨fun _ => [], [':']⟩

/-- Every element on a line of its own, two blanks further in for each open bracket. -/
def Layout.indented : Layout :=
  ⟨fun depth => '\n' :: .replicate (2 * depth) ' ', [':', ' ']⟩

mutual

/-- The text of a value inside `depth` open brackets. -/
def renderAt (layout : Layout) (depth : Nat) : Json → List Char
  | null => ['n', 'u', 'l', 'l']
  | bool true => ['t', 'r', 'u', 'e']
  | bool false => ['f', 'a', 'l', 's', 'e']
  | number literal => literal.toList
  | string s => quote s
  | array [] => ['[', ']']
  | array (item :: items) =>
    '[' :: (layout.separator (depth + 1) ++ renderAt layout (depth + 1) item) ++
      renderItems layout (depth + 1) items ++ layout.separator depth ++ [']']
  | object [] => ['{', '}']
  | object ((name, value) :: members) =>
    '{' :: (layout.separator (depth + 1) ++ quote name ++ layout.colon ++
      renderAt layout (depth + 1) value) ++
      renderMembers layout (depth + 1) members ++ layout.separator depth ++ ['}']

/-- The further items of an array. -/
def renderItems (layout : Layout) (depth : Nat) : List Json → List Char
  | [] => []
  | item :: items =>
    ',' :: (layout.separator depth ++ renderAt layout depth item) ++ renderItems layout depth items

/-- The further members of an object. -/
def renderMembers (layout : Layout) (depth : Nat) : List (String × Json) → List Char
  | [] => []
  | (name, value) :: members =>
    ',' :: (layout.separator depth ++ quote name ++ layout.colon ++ renderAt layout depth value) ++
      renderMembers layout depth members

end

/-- The text of a value in a layout. -/
def render (layout : Layout) (v : Json) : String :=
  .ofList (renderAt layout 0 v)

end Json

end UsageScan
