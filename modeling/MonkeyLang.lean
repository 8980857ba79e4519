import MonkeyLang.Assoc
import MonkeyLang.Number.Word
import MonkeyLang.Syntax.Render
import MonkeyLang.Value.Inspect
import MonkeyLang.Value.Scopes
import MonkeyLang.Event
import MonkeyLang.Eval.Evaluator
import MonkeyLang.Number.Binary64
import MonkeyLang.Number.Shortest
import MonkeyLang.Json.Parser
import MonkeyLang.Document
import MonkeyLang.Console.Layout
import MonkeyLang.CommandLine.Arguments
import MonkeyLang.CommandLine.Program
import MonkeyLang.Main
import MonkeyLang.Proofs.Positions
import MonkeyLang.Proofs.Simulation
import MonkeyLang.Proofs.Standard
import MonkeyLang.Proofs.Depth
import MonkeyLang.Proofs.Parts
import MonkeyLang.Proofs.WellFormed
import MonkeyLang.Proofs.Errors
import MonkeyLang.Proofs.Frame
import MonkeyLang.Proofs.Discipline
import MonkeyLang.Proofs.Returns
import MonkeyLang.Proofs.Exits
import MonkeyLang.Proofs.Reached
import MonkeyLang.Proofs.Chains
import MonkeyLang.Proofs.Nesting
import MonkeyLang.Proofs.Lexical
import MonkeyLang.Proofs.Grammar
import MonkeyLang.Proofs.Encoding
import MonkeyLang.Proofs.Markup
import MonkeyLang.Proofs.Wrapping
import MonkeyLang.Proofs.Stumbling
import MonkeyLang.Proofs.Refusals
import MonkeyLang.Proofs.HashLookup
import MonkeyLang.Proofs.Logging
import MonkeyLang.Proofs.Likeness
import MonkeyLang.Proofs.Twins
import MonkeyLang.Proofs.Coherent
import MonkeyLang.Proofs.Repetition
import MonkeyLang.Proofs.Sessions
import MonkeyLang.Proofs.Semantics
import MonkeyLang.Proofs.Answers
import MonkeyLang.Proofs.Strict
import MonkeyLang.Proofs.Soundness
import MonkeyLang.Proofs.Completeness
import MonkeyLang.Proofs.Everywhere
import MonkeyLang.Proofs.Hereditary
import MonkeyLang.Proofs.Words
import MonkeyLang.Proofs.Unmentioned
import MonkeyLang.Proofs.Batches
import MonkeyLang.Proofs.Guarded
import MonkeyLang.Proofs.Safety
import MonkeyLang.Proofs.Forest
import MonkeyLang.Proofs.Provenance
import MonkeyLang.Proofs.Growth
import MonkeyLang.Proofs.Reachable
import MonkeyLang.Proofs.Counting
import MonkeyLang.Proofs.Measures
import MonkeyLang.Proofs.FunctionFree
import MonkeyLang.Proofs.Midway
import MonkeyLang.Proofs.Stock
import MonkeyLang.Proofs.Passages
import MonkeyLang.Proofs.Identity
import MonkeyLang.Proofs.Arithmetic
import MonkeyLang.Proofs.Statements
import MonkeyLang.Proofs.FirstErrors
import MonkeyLang.Proofs.Tags
import MonkeyLang.Proofs.Panels
import MonkeyLang.Proofs.Division
import MonkeyLang.Proofs.HashIndex
import MonkeyLang.Proofs.Sequences
import MonkeyLang.Proofs.Mapping
import MonkeyLang.Proofs.Digests
import MonkeyLang.Proofs.Fibonacci
import MonkeyLang.Proofs.Reading
import MonkeyLang.Proofs.Readable
import MonkeyLang.Proofs.Agreement
import MonkeyLang.Proofs.Unambiguous
import MonkeyLang.Proofs.Variants
import MonkeyLang.Proofs.Tidying
import MonkeyLang.Proofs.OneTree
