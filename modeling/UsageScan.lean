import UsageScan.Main
import UsageScan.Proofs.Cursor
import UsageScan.Proofs.Form
import UsageScan.Proofs.Passage
import UsageScan.Proofs.Layout
import UsageScan.Proofs.Scan
import UsageScan.Proofs.Site
import UsageScan.Proofs.DeclaredName
import UsageScan.Proofs.Lossless
import UsageScan.Proofs.Findings
import UsageScan.Proofs.SourceHistory
import UsageScan.Proofs.Reached
import UsageScan.Proofs.Places
import UsageScan.Proofs.Token.Operator
import UsageScan.Proofs.Grammar
import UsageScan.Proofs.Usage
import UsageScan.Proofs.Recorded
import UsageScan.Proofs.Limit
import UsageScan.Proofs.Telling
import UsageScan.Proofs.Semicolon
import UsageScan.Proofs.Join
import UsageScan.Proofs.Shift
import UsageScan.Proofs.Compose
import UsageScan.Proofs.Spelling
import UsageScan.Proofs.SemicolonLimit
import UsageScan.Proofs.Observer
import UsageScan.Proofs.Progress
import UsageScan.Proofs.NameLimit
import UsageScan.Proofs.Item
import UsageScan.Proofs.SemicolonItem
import UsageScan.Proofs.Binding
import UsageScan.Proofs.KeywordWord
import UsageScan.Proofs.Header
import UsageScan.Proofs.Parentheses
import UsageScan.Proofs.Blanked
import UsageScan.Proofs.CommentLine
import UsageScan.Proofs.StringEnd
import UsageScan.Proofs.CommentBody
import UsageScan.Proofs.Lookahead
import UsageScan.Proofs.Unplaced
import UsageScan.Proofs.CommentName
import UsageScan.Proofs.Outlet
import UsageScan.Proofs.Trace
import UsageScan.Proofs.Json.Grammar
import UsageScan.Proofs.Json.Strings
import UsageScan.Proofs.Json.Reader
import UsageScan.Proofs.Json.Number
import UsageScan.Proofs.Json.Opening
import UsageScan.Proofs.Json.Render
import UsageScan.Proofs.Report
import UsageScan.Proofs.Except
import UsageScan.Proofs.Files
import UsageScan.Proofs.Arguments
import UsageScan.Proofs.Command
import UsageScan.Proofs.Text.Bytes
import UsageScan.Proofs.Text.Template
import UsageScan.Proofs.Checked.Reader
import UsageScan.Proofs.Checked.Lexeme
import UsageScan.Proofs.Checked.Token
import UsageScan.Proofs.Checked.Scan
import UsageScan.Proofs.Checked.Walk
import UsageScan.Proofs.Checked.Operator
import UsageScan.Proofs.Checked.Search
import UsageScan.Proofs.Options.Setting
import UsageScan.Proofs.Options.Reader
