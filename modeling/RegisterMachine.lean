import RegisterMachine.Image.Reader
import RegisterMachine.Main
import RegisterMachine.Proofs.Assembler.Concatenation
import RegisterMachine.Proofs.Assembler.ControlFlow
import RegisterMachine.Proofs.Assembler.Tables
import RegisterMachine.Proofs.Image.RoundTrip
import RegisterMachine.Proofs.Interpreter.Simulation
import RegisterMachine.Proofs.Assembler.Length
import RegisterMachine.Proofs.CommandLine.Result
import RegisterMachine.Proofs.CommandLine.Verbosity
import RegisterMachine.Proofs.CommandLine.Files
import RegisterMachine.Proofs.CommandLine.Stages
import RegisterMachine.Proofs.Binary64.Rounding
import RegisterMachine.Proofs.Decimal.Shortest
import RegisterMachine.Proofs.Decimal.Numeral
import RegisterMachine.Proofs.Decimal.Rereading
import RegisterMachine.Proofs.Image.Floats
import RegisterMachine.Proofs.Binary64.Precision
import RegisterMachine.Proofs.Opcode.Checking
import RegisterMachine.Proofs.Statement.Grammar
import RegisterMachine.Proofs.Source.Comment
import RegisterMachine.Proofs.Token.Numeral
import RegisterMachine.Proofs.Token.Shape
import RegisterMachine.Proofs.Text.Stability
import RegisterMachine.Proofs.Token.Spaced
import RegisterMachine.Proofs.Text.Pieces
import RegisterMachine.Proofs.Token.Scan
import RegisterMachine.Proofs.Binary64.Nearest
import RegisterMachine.Proofs.Decimal.Reading
import RegisterMachine.Proofs.Operand.Denotation
import RegisterMachine.Proofs.Assembler.Disassembly
import RegisterMachine.Proofs.Machine.Reaches
import RegisterMachine.Proofs.Machine.Registers
import RegisterMachine.Proofs.Program.Countdown
import RegisterMachine.Proofs.Unbounded.Machine
import RegisterMachine.Proofs.Unbounded.Wrapping
import RegisterMachine.Proofs.Binary64.Order
import RegisterMachine.Proofs.Value.Order
import RegisterMachine.Proofs.Value.Number
import RegisterMachine.Proofs.Token.Names
import RegisterMachine.Proofs.Assembler.Targets
import RegisterMachine.Proofs.Machine.Interruption
import RegisterMachine.Proofs.Token.Comment
import RegisterMachine.Proofs.Assembler.Shape
import RegisterMachine.Proofs.Source.Trailer
import RegisterMachine.Proofs.Source.Numbering
import RegisterMachine.Proofs.Assembler.Newlines
import RegisterMachine.Proofs.Source.Layout
import RegisterMachine.Proofs.Assembler.Layout
import RegisterMachine.Proofs.Assembler.Sessions
import RegisterMachine.Proofs.Statement.Progress
import RegisterMachine.Proofs.Listing.Lines
import RegisterMachine.Proofs.Machine.Records
import RegisterMachine.Proofs.Assembler.Records
import RegisterMachine.Proofs.Program.Trace
import RegisterMachine.Proofs.Machine.Integers
import RegisterMachine.Proofs.Assembler.Integers
import RegisterMachine.Proofs.Assembler.Resolution
import RegisterMachine.Proofs.Machine.History
import RegisterMachine.Proofs.Program.Slots
import RegisterMachine.Proofs.Listing.Injective
import RegisterMachine.Proofs.Image.Narrowing
import RegisterMachine.Proofs.Image.Unchecked
import RegisterMachine.Proofs.Image.Acceptance
import RegisterMachine.Proofs.Listing.Table
