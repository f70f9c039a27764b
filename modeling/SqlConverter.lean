import SqlConverter.Main
import SqlConverter.Session
import SqlConverter.Proofs.Dialogue.Transcript
import SqlConverter.Proofs.Conversion.Stages
import SqlConverter.Proofs.Conversion.Protocol
import SqlConverter.Proofs.Statement.Single
import SqlConverter.Proofs.Conversion.Run
import SqlConverter.Proofs.Procedure.Statements
import SqlConverter.Proofs.Engine.FirstStatement
import SqlConverter.Proofs.Concurrency.System
import SqlConverter.Proofs.Concurrency.Letters
import SqlConverter.Proofs.Concurrency.Completion
import SqlConverter.Proofs.Concurrency.Isolation
import SqlConverter.Proofs.Conversion.Ending
import SqlConverter.Proofs.Conversion.Diagnosis
import SqlConverter.Proofs.Session.Independence
import SqlConverter.Proofs.Conversion.EntryPoints
import SqlConverter.Proofs.Dialogue.Contract
import SqlConverter.Proofs.Conversion.Normalisation
import SqlConverter.Proofs.CommandLine.Configuration
import SqlConverter.Proofs.Json.Literal
import SqlConverter.Proofs.Json.RoundTrip
import SqlConverter.Proofs.Chat.Wire
import SqlConverter.Proofs.CommandLine.Outcome
import SqlConverter.Proofs.Statement.Terminator
import SqlConverter.Proofs.Statement.NormalForm
import SqlConverter.Proofs.Procedure.Reconversion
import SqlConverter.Proofs.Text.Lines
import SqlConverter.Proofs.Engine.Routing
import SqlConverter.Proofs.Procedure.Framing
import SqlConverter.Proofs.Console.Commands
import SqlConverter.Proofs.Procedure.Delimiter
import SqlConverter.Proofs.Text.Words
import SqlConverter.Proofs.Procedure.Header
import SqlConverter.Proofs.Text.Utf8
import SqlConverter.Proofs.Json.Grammar
import SqlConverter.Proofs.Chat.Decoding
import SqlConverter.Proofs.Chat.Answers
import SqlConverter.Proofs.Toml.Keys
import SqlConverter.Proofs.Config.Overlay
import SqlConverter.Proofs.Dialect.Resolution
import SqlConverter.Proofs.CommandLine.Listing
import SqlConverter.Proofs.CommandLine.Layers
import SqlConverter.Proofs.Report
