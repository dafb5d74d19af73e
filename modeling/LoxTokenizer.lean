import LoxTokenizer.Main
import LoxTokenizer.Session.Completion
import LoxTokenizer.Session.Highlight
import LoxTokenizer.Proofs.Scan.Lines
import LoxTokenizer.Proofs.Scan.Calls
import LoxTokenizer.Proofs.Scan.Composition
import LoxTokenizer.Proofs.Scan.Spacing
import LoxTokenizer.Proofs.Scan.Blanking
import LoxTokenizer.Proofs.Session.Closed
import LoxTokenizer.Proofs.Session.Division
import LoxTokenizer.Proofs.Session.Independence
import LoxTokenizer.Proofs.Program.Sources
import LoxTokenizer.Proofs.Scan.Sinks
import LoxTokenizer.Proofs.Dump.Listing
import LoxTokenizer.Proofs.Dump.Color
import LoxTokenizer.Proofs.Dump.Lossless
import LoxTokenizer.Proofs.Style.Pen
import LoxTokenizer.Proofs.Scan.Events
import LoxTokenizer.Proofs.Session.Highlight
import LoxTokenizer.Proofs.Session.Brackets
import LoxTokenizer.Proofs.Session.Faint
import LoxTokenizer.Proofs.Session.Continuation
import LoxTokenizer.Proofs.Scan.Ending
import LoxTokenizer.Proofs.Session.Hint
import LoxTokenizer.Proofs.Scan.Numeral
import LoxTokenizer.Proofs.Scan.Reserved
import LoxTokenizer.Proofs.Dump.Lines
import LoxTokenizer.Proofs.Session.Slices
import LoxTokenizer.Proofs.CommandLine.Reading
