import SerialConsole.Bench.Program
import SerialConsole.Bench.Rig
import SerialConsole.Main
import SerialConsole.Proofs.Wire.TwoChannels
import SerialConsole.Proofs.Session.Panes
import SerialConsole.Proofs.Log.Reload
import SerialConsole.Proofs.Session.Arrival
import SerialConsole.Proofs.Session.Requests
import SerialConsole.Proofs.Wire.Interference
import SerialConsole.Proofs.Session.Chronicle
import SerialConsole.Proofs.Session.Slots
import SerialConsole.Proofs.Session.Modes
import SerialConsole.Proofs.Monitor.Failures
import SerialConsole.Proofs.Link.SentLines
import SerialConsole.Proofs.Link.Delivery
import SerialConsole.Proofs.Log.Resaving
import SerialConsole.Proofs.Session.Saving
import SerialConsole.Proofs.Wire.Rewriting
import SerialConsole.Proofs.Session.HangUp
import SerialConsole.Proofs.Monitor.Turns
import SerialConsole.Proofs.Command.Replaying
import SerialConsole.Proofs.Wire.Recovery
import SerialConsole.Proofs.Wire.Coarsening
import SerialConsole.Proofs.Wire.Representation
import SerialConsole.Proofs.Link.Accounts
import SerialConsole.Proofs.Log.Views
import SerialConsole.Proofs.Monitor.Grammar
import SerialConsole.Proofs.Command.Deadline
import SerialConsole.Proofs.Command.ListeningTimes
import SerialConsole.Proofs.Log.FileNames
import SerialConsole.Proofs.Wire.Encoding
import SerialConsole.Proofs.Output.Events
import SerialConsole.Proofs.Output.Finishing
import SerialConsole.Proofs.Monitor.FilterNames
