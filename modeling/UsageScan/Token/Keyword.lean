/-!
# Keywords

The fixed words of the language, and the roles some of them play. A word is a keyword only in this
exact spelling.

## Main definitions

* `keywords` — every keyword
* `declarationKeywords` — the keywords that announce a declared name
* `opensHeader` — whether a keyword is followed by a header in parentheses
* `isValueKeyword` — whether a keyword is a complete value
-/

set_option autoImplicit false

namespace UsageScan

/-- Every keyword. -/
def keywords : List String :=
  ["if", "else", "for", "while", "return", "function", "var", "let", "const", "null", "true",
    "false", "console", "log"]

/-- The keywords that announce a declared name. -/
def declarationKeywords : List String :=
  ["var", "let", "const"]

/-- Whether a word is a keyword. -/
def isKeyword (word : String) : Bool :=
  keywords.contains word

/-- Whether a word announces a declared name. -/
def isDeclarationKeyword (word : String) : Bool :=
  declarationKeywords.contains word

/-- Whether a word is followed by a header in parentheses, which no semicolon ends. -/
def opensHeader (word : String) : Bool :=
  ["if", "for", "while", "function"].contains word

/-- Whether a word is a complete value, so that a statement may end with it. -/
def isValueKeyword (word : String) : Bool :=
  ["null", "true", "false"].contains word

end UsageScan
