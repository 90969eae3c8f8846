import ByteAsm.Assembly
import ByteAsm.Assembly.Image
import ByteAsm.Assembly.Listing
import ByteAsm.Cli.Arguments
import ByteAsm.Cli.Command
import ByteAsm.Cli.Workspace
import ByteAsm.Diagnostic
import ByteAsm.Encoding
import ByteAsm.Encoding.CodePage
import ByteAsm.Encoding.CodePage.Dos
import ByteAsm.Encoding.CodePage.Ebcdic
import ByteAsm.Encoding.CodePage.Iso8859
import ByteAsm.Encoding.CodePage.Mac
import ByteAsm.Encoding.CodePage.Regional
import ByteAsm.Encoding.CodePage.Windows
import ByteAsm.Encoding.Error
import ByteAsm.Encoding.Escape
import ByteAsm.Encoding.Hz
import ByteAsm.Encoding.Idna
import ByteAsm.Encoding.Iso2022
import ByteAsm.Encoding.Name
import ByteAsm.Encoding.Nameprep
import ByteAsm.Encoding.Nameprep.Data
import ByteAsm.Encoding.PrefixCode
import ByteAsm.Encoding.PrefixCode.Big5
import ByteAsm.Encoding.PrefixCode.EucJp
import ByteAsm.Encoding.PrefixCode.Gb
import ByteAsm.Encoding.PrefixCode.Jis2004
import ByteAsm.Encoding.PrefixCode.Korean
import ByteAsm.Encoding.PrefixCode.ShiftJis
import ByteAsm.Encoding.Punycode
import ByteAsm.Encoding.Stateful
import ByteAsm.Encoding.Unicode
import ByteAsm.Encoding.Utf7
import ByteAsm.Failure
import ByteAsm.InstructionSet
import ByteAsm.InstructionSet.Sms32
import ByteAsm.Layout
import ByteAsm.Numeral
import ByteAsm.OrderedMap
import ByteAsm.Placement
import ByteAsm.Proofs.JumpDistance
import ByteAsm.Proofs.MemoryBounds
import ByteAsm.Proofs.PassAgreement
import ByteAsm.Proofs.ScannedTokens
import ByteAsm.Proofs.StatementBytes
import ByteAsm.Proofs.StatementGrammar
import ByteAsm.Proofs.TokenPositions
import ByteAsm.RunSort
import ByteAsm.Session
import ByteAsm.Settings
import ByteAsm.Span
import ByteAsm.Statement
import ByteAsm.Statement.Parse
import ByteAsm.Text.Blank
import ByteAsm.Text.CaseFold
import ByteAsm.Text.CharName
import ByteAsm.Text.CloseMatch
import ByteAsm.Text.CodeTable
import ByteAsm.Text.DecimalDigit
import ByteAsm.Text.JsonString
import ByteAsm.Text.Lines
import ByteAsm.Text.LowerCase
import ByteAsm.Text.Normalization
import ByteAsm.Text.Normalization.Data
import ByteAsm.Text.Printable
import ByteAsm.Text.Quoted
import ByteAsm.Text.Surrogate
import ByteAsm.Text.UpperCase
import ByteAsm.Text.WordChar
import ByteAsm.Token
import ByteAsm.Token.Scan
import ByteAsm.Proofs.FailureSites
import ByteAsm.Proofs.AssemblyFailures
import ByteAsm.Proofs.DiagnosticSpans
import ByteAsm.Proofs.TextAsWritten
import ByteAsm.Proofs.UpperCaseSource
import ByteAsm.Proofs.AddressMaps
import ByteAsm.Proofs.KeptAssembly
import ByteAsm.Proofs.ExitStatus
import ByteAsm.Proofs.SourceTiling
import ByteAsm.Proofs.FilledInStatements
import ByteAsm.Proofs.TextAfterTerminator
import ByteAsm.Proofs.DiagnosticAnchors
import ByteAsm.Proofs.CaretLine
