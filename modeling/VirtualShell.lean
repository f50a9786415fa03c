import VirtualShell.Command.Probe
import VirtualShell.Completion
import VirtualShell.Main
import VirtualShell.Service
import VirtualShell.Proofs.Files.Refinement
import VirtualShell.Proofs.Files.Failing
import VirtualShell.Proofs.Interpreter.Balance
import VirtualShell.Proofs.Interpreter.Directory
import VirtualShell.Proofs.Statement.Line
import VirtualShell.Proofs.Statement.Stored
import VirtualShell.Proofs.Statement.Grammar
import VirtualShell.Proofs.Statement.Separators
import VirtualShell.Proofs.Statement.Balanced
import VirtualShell.Proofs.Statement.Nested
import VirtualShell.Proofs.Statement.Unseparated
import VirtualShell.Proofs.Engine.Following
import VirtualShell.Proofs.Interpreter.Traversal
import VirtualShell.Proofs.Interpreter.Transparency
import VirtualShell.Proofs.Interpreter.Chain
import VirtualShell.Proofs.Interpreter.Runs
import VirtualShell.Proofs.Interpreter.Script
import VirtualShell.Proofs.Session
import VirtualShell.Proofs.Interpreter.Observation
import VirtualShell.Proofs.Interpreter.Reach
import VirtualShell.Proofs.Interpreter.Keeping
import VirtualShell.Proofs.Interpreter.Budget
import VirtualShell.Proofs.Command.Keeping
import VirtualShell.Proofs.Command.Delegation
import VirtualShell.Proofs.Interpreter.Escape
import VirtualShell.Proofs.Interpreter.Locals
import VirtualShell.Proofs.Interpreter.Arguments
import VirtualShell.Proofs.Redirect
import VirtualShell.Proofs.Parameter
import VirtualShell.Proofs.Expansion
import VirtualShell.Proofs.Statement.Printing
import VirtualShell.Proofs.Assignment
import VirtualShell.Proofs.Listing
import VirtualShell.Proofs.Interpreter.Status
import VirtualShell.Proofs.Interpreter.Gating
import VirtualShell.Proofs.Token.Breaks
import VirtualShell.Proofs.Statement.Breaks
import VirtualShell.Proofs.Interpreter.Breaks
import VirtualShell.Proofs.Interpreter.Passes
import VirtualShell.Proofs.Files.Overlay
import VirtualShell.Proofs.Files.Copying
import VirtualShell.Proofs.Regex.Reading
import VirtualShell.Proofs.Regex.Matching
import VirtualShell.Proofs.Glob
import VirtualShell.Proofs.Regex.Sets
import VirtualShell.Proofs.Glob.Confinement
import VirtualShell.Proofs.Glob.Results
import VirtualShell.Proofs.Path.Resolution
import VirtualShell.Proofs.Files.Enumeration
import VirtualShell.Proofs.Text.Integer
import VirtualShell.Proofs.Command.Reading
import VirtualShell.Proofs.Command.HeadTail
import VirtualShell.Proofs.Command.Numbers
import VirtualShell.Proofs.Command.LongListing
import VirtualShell.Proofs.Command.Ending
import VirtualShell.Proofs.Text.Lines
import VirtualShell.Proofs.Command.SortUniq
import VirtualShell.Proofs.Command.Condition
import VirtualShell.Proofs.Command.Sequence
import VirtualShell.Proofs.Regex.Renumbering
import VirtualShell.Proofs.Regex.Extension
import VirtualShell.Proofs.Regex.Site
import VirtualShell.Proofs.Regex.Embedding
import VirtualShell.Proofs.Regex.Stages
import VirtualShell.Proofs.Regex.Alternatives
import VirtualShell.Proofs.Regex.Condensing
import VirtualShell.Proofs.Text.Case
import VirtualShell.Proofs.Regex.Folding
import VirtualShell.Proofs.Regex.Union
import VirtualShell.Proofs.Command.Grep
import VirtualShell.Proofs.Token.Tiling
import VirtualShell.Proofs.Completion
import VirtualShell.Proofs.Interpreter.Audit
import VirtualShell.Proofs.Parameter.Braces
