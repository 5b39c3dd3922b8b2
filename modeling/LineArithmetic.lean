import LineArithmetic.Binary64.Arithmetic
import LineArithmetic.Binary64.Basic
import LineArithmetic.Binary64.Printing
import LineArithmetic.Binary64.Reading
import LineArithmetic.Binary64.Rounding
import LineArithmetic.Binary64.Shortest
import LineArithmetic.Charset.Basic
import LineArithmetic.Charset.Decoding
import LineArithmetic.Charset.EastAsian.Basic
import LineArithmetic.Charset.EastAsian.Big5
import LineArithmetic.Charset.EastAsian.Chinese
import LineArithmetic.Charset.EastAsian.Cp932
import LineArithmetic.Charset.EastAsian.Gb18030
import LineArithmetic.Charset.EastAsian.Gb2312
import LineArithmetic.Charset.EastAsian.Gbk
import LineArithmetic.Charset.EastAsian.Hkscs
import LineArithmetic.Charset.EastAsian.Japanese
import LineArithmetic.Charset.EastAsian.JisX0208
import LineArithmetic.Charset.EastAsian.JisX0212
import LineArithmetic.Charset.EastAsian.JisX0213
import LineArithmetic.Charset.EastAsian.Korean
import LineArithmetic.Charset.EastAsian.KsX1001
import LineArithmetic.Charset.EastAsian.Switching
import LineArithmetic.Charset.Escaped
import LineArithmetic.Charset.Latin1
import LineArithmetic.Charset.Name
import LineArithmetic.Charset.Punycode
import LineArithmetic.Charset.SingleByte.Dos
import LineArithmetic.Charset.SingleByte.Ebcdic
import LineArithmetic.Charset.SingleByte.Iso8859
import LineArithmetic.Charset.SingleByte.Macintosh
import LineArithmetic.Charset.SingleByte.National
import LineArithmetic.Charset.SingleByte.Windows
import LineArithmetic.Charset.Table
import LineArithmetic.Charset.Utf7
import LineArithmetic.Charset.Utf8
import LineArithmetic.Charset.Wide
import LineArithmetic.Command.Arguments
import LineArithmetic.Command.Files
import LineArithmetic.Command.Run
import LineArithmetic.Diagnostic
import LineArithmetic.Document
import LineArithmetic.Evaluation
import LineArithmetic.Http.HeaderValue
import LineArithmetic.Http.Host
import LineArithmetic.Http.MediaType
import LineArithmetic.Http.Negotiation
import LineArithmetic.Http.Query
import LineArithmetic.Http.Service
import LineArithmetic.Json.Basic
import LineArithmetic.Json.Printing
import LineArithmetic.Json.Reading
import LineArithmetic.Log
import LineArithmetic.Main
import LineArithmetic.Node
import LineArithmetic.Number
import LineArithmetic.Numeral
import LineArithmetic.Parser
import LineArithmetic.Settings
import LineArithmetic.Submission
import LineArithmetic.Text.Blank
import LineArithmetic.Text.CodePoint
import LineArithmetic.Text.DecimalDigit
import LineArithmetic.Text.Hex
import LineArithmetic.Text.Lines
import LineArithmetic.Text.Numeral
import LineArithmetic.Text.Percent
import LineArithmetic.Text.Printable
import LineArithmetic.Text.Quoted
import LineArithmetic.Text.Split
import LineArithmetic.Text.UpperCase
import LineArithmetic.Text.Words
import LineArithmetic.Token
import LineArithmetic.Value
import LineArithmetic.Proofs.Binary64.Integers
import LineArithmetic.Proofs.Chain
import LineArithmetic.Proofs.Folding
import LineArithmetic.Proofs.Parsing
import LineArithmetic.Proofs.Compilation
import LineArithmetic.Proofs.Evaluation
import LineArithmetic.Proofs.Exactness
import LineArithmetic.Proofs.Binary64.SameNumber
import LineArithmetic.Proofs.PlainEvaluation
import LineArithmetic.Proofs.Streaming
import LineArithmetic.Proofs.Documents
import LineArithmetic.Proofs.Numbering
import LineArithmetic.Proofs.CheckedEvaluation
import LineArithmetic.Proofs.Totality
import LineArithmetic.Proofs.Reuse
import LineArithmetic.Proofs.Utf8
import LineArithmetic.Proofs.Runs
import LineArithmetic.Proofs.LineBreaks
import LineArithmetic.Proofs.Output
import LineArithmetic.Proofs.Outcomes
import LineArithmetic.Proofs.Binary64.Decimals
import LineArithmetic.Proofs.Digits
import LineArithmetic.Proofs.Binary64.Printing
import LineArithmetic.Proofs.Json.Grammar
import LineArithmetic.Proofs.Json.Printing
import LineArithmetic.Proofs.Json.Numbers
import LineArithmetic.Proofs.Json.Strings
import LineArithmetic.Proofs.Json.Reading
import LineArithmetic.Proofs.Acceptance
import LineArithmetic.Proofs.Answer
import LineArithmetic.Proofs.Binary64.Optimal
import LineArithmetic.Proofs.Quotients
import LineArithmetic.Proofs.Binary64.Positional
import LineArithmetic.Proofs.Words
import LineArithmetic.Proofs.ReadBack
import LineArithmetic.Proofs.Agreement
import LineArithmetic.Proofs.Reports
import LineArithmetic.Proofs.Messages
import LineArithmetic.Proofs.Rendering
import LineArithmetic.Proofs.Identification
import LineArithmetic.Proofs.Surfaces
import LineArithmetic.Proofs.Stack
import LineArithmetic.Proofs.Faults
import LineArithmetic.Proofs.Tokenization
import LineArithmetic.Proofs.Binary64.Standard
import LineArithmetic.Proofs.RoundedLiterals
import LineArithmetic.Proofs.Division
