import PageQuery.Document.Scripted
import PageQuery.Document.Stored
import PageQuery.Main
import PageQuery.Printing.Scripted
import PageQuery.Proofs.Action.Naming
import PageQuery.Proofs.Document.Pdf
import PageQuery.Proofs.Files.Changes
import PageQuery.Proofs.Query.Occurrence
import PageQuery.Proofs.Run
import PageQuery.Text.Basic
import PageQuery.Proofs.Action.Export
import PageQuery.Proofs.Printing.Service
import PageQuery.Proofs.Action.Printing
import PageQuery.Proofs.Action.Dispatch
import PageQuery.Proofs.Text.LetterCase
import PageQuery.Proofs.Query.LetterCase
import PageQuery.Proofs.Query.NormalForm
import PageQuery.Proofs.Document.Saving
import PageQuery.Proofs.Forgetful
import PageQuery.Proofs.Pipeline
import PageQuery.Proofs.Document.Asking
import PageQuery.Proofs.Action.Attempts
import PageQuery.Proofs.Document.Keeping
import PageQuery.Proofs.Files.Path
import PageQuery.Proofs.Action.Destination
import PageQuery.Proofs.Page.Records
import PageQuery.Proofs.Text.Decoding
import PageQuery.Proofs.Settings.RoundTrip
import PageQuery.Proofs.Action.NameLength
import PageQuery.Proofs.CommandLine.Settings
import PageQuery.Proofs.Printing.Waiting
import PageQuery.Proofs.Text.Lines
import PageQuery.Proofs.Printing.DefaultName
import PageQuery.Proofs.Json.Skipping
import PageQuery.Proofs.Settings.Entry
import PageQuery.Proofs.Settings.Object
