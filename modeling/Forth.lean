import Forth.Batch
import Forth.CommandLine.Arguments
import Forth.CommandLine.Invocation
import Forth.CommandLine.Path
import Forth.CommandLine.Plan
import Forth.Conversation
import Forth.Diagnostic
import Forth.Dictionary
import Forth.Evaluator
import Forth.Event
import Forth.Grammar
import Forth.Machine
import Forth.Main
import Forth.Number.Basic
import Forth.Number.Dyadic
import Forth.Number.Rounding
import Forth.Number.Shortest
import Forth.Number.Text
import Forth.Parser.Basic
import Forth.Parser.Display
import Forth.Parser.Outcome
import Forth.Program
import Forth.Report
import Forth.Stack
import Forth.Text.Blank
import Forth.Text.Colour
import Forth.Text.Digit
import Forth.Text.Escape
import Forth.Text.Letter
import Forth.Text.Line
import Forth.Text.Printable
import Forth.Text.Quoted
import Forth.Token
import Forth.Proofs.Lexicon
import Forth.Proofs.Syntax
import Forth.Proofs.Reading
import Forth.Proofs.Recursion
import Forth.Proofs.Resources
import Forth.Proofs.Decimal
import Forth.Proofs.Lockstep
import Forth.Proofs.Layout
import Forth.Proofs.Unfinished
import Forth.Proofs.Completion
import Forth.Proofs.Concatenation
import Forth.Proofs.WellFormed
import Forth.Proofs.Invariant
import Forth.Proofs.Accident
import Forth.Proofs.Safety
import Forth.Proofs.Dialogue
import Forth.Proofs.StackDisplay
import Forth.Proofs.Survival
import Forth.Proofs.Writing
import Forth.Proofs.ValuesBelow
import Forth.Proofs.ControlFlow
import Forth.Proofs.Storage
import Forth.Proofs.ListModel
import Forth.Proofs.Sequencing
import Forth.Proofs.DepthLimit
import Forth.Proofs.Inlining
import Forth.Proofs.Occurrence
import Forth.Proofs.Trace
import Forth.Proofs.Renaming
import Forth.Proofs.OtherNames
import Forth.Proofs.UnusedWords
import Forth.Proofs.Isolation
import Forth.Proofs.Overflow
import Forth.Proofs.Failure
import Forth.Proofs.CallPaths
import Forth.Proofs.Provenance
import Forth.Proofs.IntegerFragment
import Forth.Proofs.Remainder
import Forth.Proofs.Literals
import Forth.Proofs.FirstMistake
import Forth.Proofs.EmptyBody
import Forth.Proofs.Combination
import Forth.Proofs.Room
import Forth.Proofs.ParserLaws
import Forth.Proofs.History
import Forth.Proofs.StackListing
import Forth.Proofs.Applications
import Forth.Proofs.Nesting
import Forth.Proofs.Spacing
