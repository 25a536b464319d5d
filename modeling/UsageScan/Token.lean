import UsageScan.Position
/-!
# Tokens

A token is a classified stretch of the source. Its span covers exactly the bytes consumed, while its
text is what the trace shows: a number written `.5` is shown as `0.5`, a block comment that never
closes is shown closed, and a long text may be clipped. Flags record these differences.

## Main definitions

* `Token.Kind`, `Token.Flags`, `Token`
* `Token.render` — the trace line of a token
* `Token.commentBody?` — the text between the delimiters of a comment
-/

set_option autoImplicit false

namespace UsageScan

/-- The classes of tokens. -/
inductive Token.Kind where
  | keyword
  | identifier
  | number
  | operator
  | delimiter
  | string
  | comment
  | unknown
deriving DecidableEq, Repr

/-- The word that stands for a class in the trace. -/
def Token.Kind.label : Token.Kind → String
  | keyword => "KEYWORD"
  | identifier => "IDENTIFIER"
  | number => "NUMBER"
  | operator => "OPERATOR"
  | delimiter => "DELIMITER"
  | string => "STRING"
  | comment => "COMMENT"
  | unknown => "UNKNOWN"

/-- Facts about how a token was read. -/
structure Token.Flags where
  /-- A string or block comment that ran into the end of the text. -/
  unterminated : Bool := false
  /-- A comment in the delimiters of a block. -/
  blockComment : Bool := false
  /-- A number written with a leading dot. -/
  implicitLeadingZero : Bool := false
  /-- The text was clipped to the length limit. -/
  truncated : Bool := false
deriving DecidableEq, Repr

/-- No fact at all. -/
def Token.Flags.none : Token.Flags := {}

/-- The facts in either of two sets. -/
def Token.Flags.union (a b : Token.Flags) : Token.Flags where
  unterminated := a.unterminated || b.unterminated
  blockComment := a.blockComment || b.blockComment
  implicitLeadingZero := a.implicitLeadingZero || b.implicitLeadingZero
  truncated := a.truncated || b.truncated

/-- A classified stretch of the source. -/
structure Token where
  kind : Token.Kind
  /-- The text shown in the trace. -/
  text : String
  /-- Where the first character stands. -/
  location : Location
  /-- The bytes consumed. -/
  span : Span
  flags : Token.Flags
deriving DecidableEq, Repr

namespace Token

/-- Whether a token has the given kind and text. -/
def is (t : Token) (kind : Kind) (text : String) : Bool :=
  t.kind == kind && t.text == text

/-- The trace line of a token: its kind in brackets, then its text. -/
def render (t : Token) : String :=
  "[" ++ t.kind.label ++ "] " ++ t.text

/-- The text between the delimiters of a comment. There is none if the text does not show both
delimiters of a block comment, as when it was clipped. -/
def commentBody? (t : Token) : Option String :=
  if t.kind ≠ .comment then Option.none
  else if t.flags.blockComment then do
    let inner ← ['/', '*'].isPrefixOf? t.text.toList
    let body ← ['*', '/'].isSuffixOf? inner
    some (.ofList body)
  else
    (['/', '/'].isPrefixOf? t.text.toList).map .ofList

end Token

end UsageScan
