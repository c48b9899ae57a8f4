import Anem.Text.Basic
import Anem.Text.Blank
import Anem.Text.Digit
import Anem.Text.WordChar
import Anem.Text.UpperCase
import Anem.Text.Lines
import Anem.Text.Numeral
import Anem.Text.Order
import Anem.Text.Columns
import Anem.Text.Ligature
import Anem.Text.Emoji
import Anem.Text.Width
import Anem.Word
import Anem.Literal
import Anem.Fault
import Anem.Mnemonic
import Anem.Register
import Anem.Immediate
import Anem.Operand
import Anem.Field
import Anem.SymbolTable
import Anem.Instruction.Basic
import Anem.Instruction.Parse
import Anem.Instruction.Encode
import Anem.Instruction.Decode
import Anem.Event
import Anem.Journal
import Anem.Pseudo
import Anem.Statement
import Anem.Directive
import Anem.Layout
import Anem.Image
import Anem.Assembly
import Anem.Listing
import Anem.Grid
import Anem.Path
import Anem.FileTree
import Anem.CommandLine.Options
import Anem.CommandLine.Script
import Anem.Main
import Anem.Proofs.Lists
import Anem.Proofs.Text.Pieces
import Anem.Proofs.Text.Trim
import Anem.Proofs.Text.Numerals
import Anem.Proofs.Text.UpperCase
import Anem.Proofs.Literals
import Anem.Proofs.Literals.Grammar
import Anem.Proofs.Literals.Characters
import Anem.Proofs.Operands
import Anem.Proofs.SymbolTable
import Anem.Proofs.SymbolTable.Runs
import Anem.Proofs.Fields
import Anem.Proofs.Number
import Anem.Proofs.Fields.Exact
import Anem.Proofs.Instruction.Spelling
import Anem.Proofs.Instruction.Decoding
import Anem.Proofs.Instruction.Canonical
import Anem.Proofs.Instruction.References
import Anem.Proofs.Instruction.Distance
import Anem.Proofs.Instruction.Grammar
import Anem.Proofs.Instruction.Fit
import Anem.Proofs.Pseudo
import Anem.Proofs.Journal
import Anem.Proofs.Journal.Ledger
import Anem.Proofs.Journal.Standing
import Anem.Proofs.Directives
import Anem.Proofs.Layout.Roles
import Anem.Proofs.Layout.ClosedForm
import Anem.Proofs.Layout.Faultless
import Anem.Proofs.Layout.Runs
import Anem.Proofs.Layout.Growth
import Anem.Proofs.Layout.Relocation
import Anem.Proofs.Layout.Constants
import Anem.Proofs.Image
import Anem.Proofs.Image.FloatingPoint
import Anem.Proofs.Image.LastWrite
import Anem.Proofs.Statement.Clean
import Anem.Proofs.Statement.Lines
import Anem.Proofs.Statement.PrintedLine
import Anem.Proofs.Statement.Wording
import Anem.Proofs.Pseudo.Wording
import Anem.Proofs.Statement.Settled
import Anem.Proofs.Statement.Halves
import Anem.Proofs.Assembly.Passes
import Anem.Proofs.Assembly.Lossless
import Anem.Proofs.Assembly.Provenance
import Anem.Proofs.Assembly.Abort
import Anem.Proofs.Assembly.Strict
import Anem.Proofs.Assembly.Session
import Anem.Proofs.Assembly.Reassembly
import Anem.Proofs.Assembly.Labels
import Anem.Proofs.Assembly.Names
import Anem.Proofs.Assembly.Expansion
import Anem.Proofs.Assembly.DroppedLines
import Anem.Proofs.Assembly.PseudoLines
import Anem.Proofs.Assembly.Renumbered
import Anem.Proofs.Assembly.Normalization
import Anem.Proofs.Assembly.Appearance
import Anem.Proofs.Listing.Binary
import Anem.Proofs.Listing.Columns
import Anem.Proofs.Grid
import Anem.Proofs.CommandLine.Arguments
import Anem.Proofs.CommandLine.Runs
import Anem.Proofs.CommandLine.Agreement
import Anem.Proofs.Directives
