import CommandMarkup.Calendar.Date
import CommandMarkup.Calendar.Directive
import CommandMarkup.Calendar.Format
import CommandMarkup.Calendar.Moment
import CommandMarkup.Calendar.Reader
import CommandMarkup.Call.Basic
import CommandMarkup.Call.Grammar
import CommandMarkup.Call.Parser
import CommandMarkup.Call.Reason
import CommandMarkup.Document
import CommandMarkup.Embedding.Basic
import CommandMarkup.Embedding.Lexer
import CommandMarkup.Embedding.Segment
import CommandMarkup.Fault
import CommandMarkup.Handler.Abstract
import CommandMarkup.Handler.Basic
import CommandMarkup.Handler.ClassName
import CommandMarkup.Handler.DateTime
import CommandMarkup.Handler.Markup
import CommandMarkup.Outcome
import CommandMarkup.Prepared.Basic
import CommandMarkup.Prepared.Recognize
import CommandMarkup.Prepared.Render
import CommandMarkup.Registry.Basic
import CommandMarkup.Registry.Bundled
import CommandMarkup.Registry.Dispatch
import CommandMarkup.Registry.Environment
import CommandMarkup.Registry.Event
import CommandMarkup.Registry.Register
import CommandMarkup.Registry.Resolve
import CommandMarkup.Settings.Basic
import CommandMarkup.Settings.Validation
import CommandMarkup.Table
import CommandMarkup.Text.Basic
import CommandMarkup.Text.Blank
import CommandMarkup.Text.Case
import CommandMarkup.Text.CodePoint
import CommandMarkup.Text.Digit
import CommandMarkup.Text.Escape
import CommandMarkup.Text.Printable
import CommandMarkup.Text.Quoted
import CommandMarkup.Value
import CommandMarkup.Version
import CommandMarkup.Proofs.Call.Derivation
import CommandMarkup.Proofs.Call.RoundTrip
import CommandMarkup.Proofs.Registry.Search
import CommandMarkup.Proofs.Registry.Step
import CommandMarkup.Proofs.Registry.Run
import CommandMarkup.Proofs.Registry.Store
import CommandMarkup.Proofs.Prepared.Phases
import CommandMarkup.Proofs.Registry.Target
import CommandMarkup.Proofs.Calendar.Figures
import CommandMarkup.Proofs.Calendar.Ordinal
import CommandMarkup.Proofs.Calendar.Week
import CommandMarkup.Proofs.Calendar.Spelling
import CommandMarkup.Proofs.Calendar.Writing
import CommandMarkup.Proofs.Text.Occurrence
import CommandMarkup.Proofs.Text.Regex
import CommandMarkup.Proofs.Text.Trimming
import CommandMarkup.Proofs.Embedding.Pattern
import CommandMarkup.Proofs.Embedding.Scan
import CommandMarkup.Proofs.Embedding.Lexing
import CommandMarkup.Proofs.Embedding.Agreement
import CommandMarkup.Proofs.Text.Entity
import CommandMarkup.Proofs.Handler.Abstract
import CommandMarkup.Proofs.Handler.Bundled
import CommandMarkup.Proofs.Registry.Bundled
import CommandMarkup.Proofs.Prepared.Bundled
import CommandMarkup.Proofs.Prepared.Recovery
import CommandMarkup.Proofs.Prepared.Contained
import CommandMarkup.Proofs.Prepared.Separation
import CommandMarkup.Proofs.Prepared.Appending
import CommandMarkup.Proofs.Registry.Answer
import CommandMarkup.Proofs.Prepared.Purity
import CommandMarkup.Proofs.Prepared.History
import CommandMarkup.Proofs.Embedding.Segmentation
import CommandMarkup.Proofs.Document.Replacement
import CommandMarkup.Proofs.Call.Diagnosis
import CommandMarkup.Proofs.Prepared.Rerendering
import CommandMarkup.Proofs.Call.Spelling
import CommandMarkup.Proofs.Prepared.Uniformity
import CommandMarkup.Proofs.Registry.Building
import CommandMarkup.Proofs.Concurrency.Machine
import CommandMarkup.Proofs.Concurrency.Turn
import CommandMarkup.Proofs.Concurrency.Linear
import CommandMarkup.Proofs.Concurrency.Reply
import CommandMarkup.Proofs.Concurrency.Once
import CommandMarkup.Proofs.Concurrency.Progress
import CommandMarkup.Proofs.Concurrency.Sequential
import CommandMarkup.Proofs.Concurrency.Linearizable
import CommandMarkup.Proofs.Call.Index
import CommandMarkup.Proofs.Handler.DateTime
import CommandMarkup.Proofs.Handler.Denotation
import CommandMarkup.Proofs.Text.Lowering
import CommandMarkup.Proofs.Registry.Naming
import CommandMarkup.Proofs.Registry.FirstHit
import CommandMarkup.Proofs.Settings.PackageName
import CommandMarkup.Proofs.Text.Escaping
import CommandMarkup.Proofs.Text.Figures
import CommandMarkup.Proofs.Settings.Validation
import CommandMarkup.Proofs.Settings.Accepted
import CommandMarkup.Proofs.Registry.Blocking
import CommandMarkup.Proofs.Registry.Chronicle
import CommandMarkup.Proofs.Handler.ClassName
