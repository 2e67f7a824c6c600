import LetLang.Vocabulary
import LetLang.Span
import LetLang.Text.Quoted
import LetLang.Text.Columns
import LetLang.Text.Bytes
import LetLang.Token.Basic
import LetLang.Token.Lexer
import LetLang.Token.Cursor
import LetLang.Tree.Parser
import LetLang.Tree.Dump
import LetLang.Report.Diagnostic
import LetLang.Report.Basic
import LetLang.Session
import LetLang.Command.Help
import LetLang.Command.Outcome
import LetLang.Main
import LetLang.Proofs.Stream
import LetLang.Proofs.Yield
import LetLang.Proofs.Window
import LetLang.Proofs.Recognition
import LetLang.Proofs.Spelling
import LetLang.Proofs.Tokenization
import LetLang.Proofs.Composition
import LetLang.Proofs.Join
import LetLang.Proofs.Expectation
import LetLang.Proofs.Prefix
import LetLang.Proofs.Encoding
import LetLang.Proofs.Grammar
import LetLang.Proofs.Written
import LetLang.Proofs.Transcript
import LetLang.Proofs.Linewise
import LetLang.Proofs.Listing
import LetLang.Proofs.Bounds
import LetLang.Proofs.Boundary
import LetLang.Proofs.Blanks
import LetLang.Proofs.Kinds
import LetLang.Proofs.Calls
import LetLang.Proofs.Spacing
import LetLang.Proofs.Registry
import LetLang.Proofs.Excerpt
import LetLang.Proofs.Shape
import LetLang.Proofs.Execution
import LetLang.Proofs.Closing
import LetLang.Proofs.Dump
import LetLang.Proofs.CommandLine
import LetLang.Proofs.Arguments
import LetLang.Proofs.Requests
import LetLang.Proofs.Place
import LetLang.Proofs.Attempt
import LetLang.Proofs.Finish
import LetLang.Proofs.Progress
import LetLang.Proofs.Cursor
