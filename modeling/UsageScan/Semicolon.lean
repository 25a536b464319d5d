import UsageScan.Token
import UsageScan.Token.Keyword
import UsageScan.Warning
/-!
# Missing semicolons

The check goes by lines: when a line ends and the last thing on it could end a statement, a
semicolon was probably forgotten. Comments do not count. The parenthesis that closes the header of
an `if`, `for`, `while` or `function` is exempt, because no semicolon follows a header.

The check sees tokens as the trace shows them, that is, with their texts clipped.

## Main definitions

* `SemicolonLint` — what the check remembers from one item to the next
* `SemicolonLint.observe`, `SemicolonLint.observeDeclaration`, `SemicolonLint.endLine` — its steps
-/

set_option autoImplicit false

namespace UsageScan

/-- What the check remembers from one item to the next. -/
structure SemicolonLint where
  /-- Where the last item ended, if it could end a statement and its line goes on. -/
  pending : Option Location
  /-- Whether a header was announced whose parenthesis has not come yet. -/
  headerKeyword : Bool
  /-- The depth inside the parentheses of the open header, if there is one. -/
  headerDepth : Option Nat
  /-- The number of open parentheses. -/
  depth : Nat
deriving DecidableEq, Repr

namespace SemicolonLint

/-- The check before the first item. -/
def start : SemicolonLint :=
  ⟨none, false, none, 0⟩

/-- Whether a header stays announced behind a token. The name of a function stands between the
keyword and its header. -/
def keepsHeader (lint : SemicolonLint) (token : Token) : Bool :=
  match token.kind with
  | .keyword => opensHeader token.text
  | .identifier => lint.headerKeyword
  | _ => false

/-- Whether a closing parenthesis at this point closes the open header. -/
def closesHeader (lint : SemicolonLint) : Bool :=
  lint.headerDepth == some lint.depth

/-- Whether a statement may end with a token. -/
def endsStatement (lint : SemicolonLint) (token : Token) : Bool :=
  match token.kind with
  | .keyword => isValueKeyword token.text
  | .identifier => !lint.headerKeyword
  | .number | .string => true
  | .delimiter => token.text == "]" || (token.text == ")" && !lint.closesHeader)
  | .operator => token.text == "++" || token.text == "--"
  | .comment | .unknown => false

/-- Follows the parentheses. An opening one that comes while a header is announced opens it, unless
another header is open. A closing one without an opening one changes no depth. -/
def followParentheses (lint : SemicolonLint) (token : Token) : SemicolonLint :=
  if token.is .delimiter "(" then
    { lint with
      depth := lint.depth + 1
      headerDepth :=
        if lint.headerKeyword && lint.headerDepth.isNone then some (lint.depth + 1)
        else lint.headerDepth }
  else if token.is .delimiter ")" then
    { lint with
      depth := lint.depth - 1
      headerDepth := if lint.closesHeader then none else lint.headerDepth }
  else lint

/-- Takes in a token that ends before `stop`. Comments are passed over. -/
def observe (lint : SemicolonLint) (token : Token) (stop : Location) : SemicolonLint :=
  if token.kind = .comment then lint
  else
    { lint.followParentheses token with
      headerKeyword := lint.keepsHeader token
      pending := if lint.endsStatement token then some stop else none }

/-- Takes in a declared name that ends before `stop`. A statement may end with it. -/
def observeDeclaration (lint : SemicolonLint) (stop : Location) : SemicolonLint :=
  { lint with headerKeyword := false, pending := some stop }

/-- Ends a line, with a warning if it ended where a statement could. -/
def endLine (lint : SemicolonLint) : Option Warning × SemicolonLint :=
  (lint.pending.map Warning.missingSemicolon, { lint with pending := none })

end SemicolonLint

end UsageScan
