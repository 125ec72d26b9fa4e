import Calculator.Unicode.Alphabetic
import Calculator.Unicode.GraphemeExtend
import Calculator.Unicode.Hidden
import Calculator.Unicode.WhiteSpace
import Calculator.Text.Bytes
import Calculator.Text.Quoted
import Calculator.Character
import Calculator.Literal
import Calculator.Cursor
import Calculator.Diagnostic
import Calculator.Operator
import Calculator.Store
import Calculator.Expression
import Calculator.Statement
import Calculator.Options
import Calculator.Options.Scan
import Calculator.CommandLine
import Calculator.Main
import Calculator.Proofs.Reading.Lockstep
import Calculator.Proofs.Reading.Names
import Calculator.Proofs.Reading.Endings
import Calculator.Proofs.Reading.Entries
import Calculator.Proofs.Reading.Lookups
import Calculator.Proofs.Reading.Offsets
import Calculator.Proofs.Reading.ByteReaders
import Calculator.Proofs.Reading.Calls
import Calculator.Proofs.Language.Meaning
import Calculator.Proofs.Language.Context
import Calculator.Proofs.Language.Substitution
import Calculator.Proofs.Language.Printing
import Calculator.Proofs.Language.Literals
import Calculator.Proofs.Layout.Blanks
import Calculator.Proofs.Layout.Placement
import Calculator.Proofs.Diagnosis.ViablePrefix
import Calculator.Proofs.Diagnosis.Evidence
import Calculator.Proofs.Diagnosis.FaultyAtoms
import Calculator.Proofs.Diagnosis.NestingLimit
import Calculator.Proofs.Diagnosis.Supplying
import Calculator.Proofs.Diagnosis.Messages
import Calculator.Proofs.Sessions.History
import Calculator.Proofs.Sessions.Reordering
import Calculator.Proofs.Sessions.Saving
import Calculator.Proofs.Sessions.Lineages
import Calculator.Proofs.Terminal.Transcripts
import Calculator.Proofs.Terminal.Interrupts
import Calculator.Proofs.Terminal.Styling
import Calculator.Proofs.Terminal.Trail
import Calculator.Proofs.Terminal.Scanning
import Calculator.Proofs.Terminal.Arguments
