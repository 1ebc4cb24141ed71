import Mender.Assistant.Answer
import Mender.Assistant.Wire
import Mender.BuildLog
import Mender.Json.Reader
import Mender.Json.Writer
import Mender.Log.Line
import Mender.Log.Setup
import Mender.Service.Framework
import Mender.Proofs.Session.Occurrences
import Mender.Proofs.Session.Course
import Mender.Proofs.Session.Stop
import Mender.Proofs.Repair.Strategy
import Mender.Proofs.Repair.Fallback
import Mender.Proofs.Session.Books
import Mender.Proofs.Path
import Mender.Proofs.PathText
import Mender.Proofs.FileTree
import Mender.Proofs.Repair.Backup
import Mender.Proofs.Text.Numeral
import Mender.Proofs.Text.Utf8
import Mender.Proofs.Text.Scan
import Mender.Proofs.Session.Undo
import Mender.Proofs.Repair.Confinement
import Mender.Proofs.Session.Confinement
import Mender.Proofs.BuildLog.Forms
import Mender.Proofs.BuildLog.Attribution
import Mender.Proofs.Text.Lines
import Mender.Proofs.Text.Braces
import Mender.Proofs.BuildLog.BlankLines
import Mender.Proofs.BuildLog.Printing
import Mender.Proofs.BuildLog.Streams
import Mender.Proofs.BuildLog.Colours
import Mender.Proofs.Repair.Line
import Mender.Proofs.Repair.Markup
import Mender.Proofs.Repair.HeadElement
import Mender.Proofs.Repair.HeadImport
import Mender.Proofs.Repair.Duplicate
import Mender.Proofs.Repair.ImportNames
import Mender.Proofs.Repair.Round
import Mender.Proofs.Repair.LineRound
import Mender.Proofs.Repair.Balance
import Mender.Proofs.Repair.NamedImport
import Mender.Proofs.Repair.UnusedImport
import Mender.Proofs.Repair.AllOrNothing
import Mender.Proofs.Repair.Bystanders
import Mender.Proofs.Repair.Copies
import Mender.Proofs.Assistant.Retry
import Mender.Proofs.Assistant.Answer
import Mender.Proofs.Assistant.Trace
import Mender.Proofs.Repair.Segments
import Mender.Proofs.Repair.ExplicitAny
import Mender.Proofs.Repair.SingleDeclaration
import Mender.Proofs.Repair.LineEnds
import Mender.Proofs.Assistant.Snippet
import Mender.Proofs.Build.Launches
import Mender.Proofs.Session.Pauses
import Mender.Proofs.Service.Scene
import Mender.Proofs.Service.Sharing
import Mender.Proofs.Service.Registry
import Mender.Proofs.Service.Limits
import Mender.Proofs.Json.Scalar
import Mender.Proofs.Json.Indented
import Mender.Proofs.Service.ReportFile
