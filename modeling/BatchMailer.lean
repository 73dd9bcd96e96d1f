import BatchMailer.Main
import BatchMailer.Session
import BatchMailer.Proofs.Wire.Grammar
import BatchMailer.Proofs.Wire.Reading
import BatchMailer.Proofs.Session.Invariant
import BatchMailer.Proofs.Stream.Notes
import BatchMailer.Proofs.Stream.Trace
import BatchMailer.Proofs.FileTree.Usable
import BatchMailer.Proofs.Stream.Chunking
import BatchMailer.Proofs.Flush.Settled
import BatchMailer.Proofs.Run.Lots
import BatchMailer.Proofs.Run.Dispatch
import BatchMailer.Proofs.Text.Encoding
import BatchMailer.Proofs.Json.Grammar
import BatchMailer.Proofs.Json.Written
import BatchMailer.Proofs.Ses.Carried
import BatchMailer.Proofs.Ses.Isolation
import BatchMailer.Proofs.Stream.Lockstep
import BatchMailer.Proofs.Run.Counting
import BatchMailer.Proofs.Store.Ledger
import BatchMailer.Proofs.Session.Conservation
import BatchMailer.Proofs.Flush.InTurn
import BatchMailer.Proofs.Run.Ending
import BatchMailer.Proofs.Run.DryRun
import BatchMailer.Proofs.Store.Veil
import BatchMailer.Proofs.Wire.Veil
import BatchMailer.Proofs.Run.Matched
import BatchMailer.Proofs.Run.Codes
import BatchMailer.Proofs.Run.Secrecy
import BatchMailer.Proofs.Session.Refused
import BatchMailer.Proofs.Flush.Witnessed
import BatchMailer.Proofs.Ses.Classified
import BatchMailer.Proofs.Diagnostic.Name
import BatchMailer.Proofs.FileTree.Written
import BatchMailer.Proofs.Flush.Captured
import BatchMailer.Proofs.Run.Kept
import BatchMailer.Proofs.Diagnostic.Dump
import BatchMailer.Proofs.Diagnostic.Order
import BatchMailer.Proofs.Capture.Footprint
import BatchMailer.Proofs.Run.Escaped
import BatchMailer.Proofs.Text.Lossy
import BatchMailer.Proofs.Text.Trimmed
import BatchMailer.Proofs.EnvFile.Assigned
import BatchMailer.Proofs.EnvFile.Loaded
import BatchMailer.Proofs.Binary64.Numerals
import BatchMailer.Proofs.Settings.Timeouts
import BatchMailer.Proofs.Console.Framed
import BatchMailer.Proofs.Run.Framed
import BatchMailer.Proofs.Session.Boundary
import BatchMailer.Proofs.Settings.Listed
