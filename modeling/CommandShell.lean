import CommandShell.Main
import CommandShell.Proofs.Line.Region
import CommandShell.Proofs.Line.Decoding
import CommandShell.Proofs.World.Steady
import CommandShell.Proofs.Session.Act
import CommandShell.Proofs.Session.Rounds
import CommandShell.Proofs.Session.Transcript
import CommandShell.Proofs.Session.Repl
import CommandShell.Proofs.Disk.Onward
import CommandShell.Proofs.Path.Plain
import CommandShell.Proofs.Path.Landing
import CommandShell.Proofs.Disk.Undisturbed
import CommandShell.Proofs.Disk.Names
import CommandShell.Proofs.Session.Anchored
import CommandShell.Proofs.Session.Targets
import CommandShell.Proofs.Session.Turn
import CommandShell.Proofs.Session.Frame
import CommandShell.Proofs.Session.Stability
import CommandShell.Proofs.Session.Handles
import CommandShell.Proofs.Disk.Agrees
import CommandShell.Proofs.World.Remarks
import CommandShell.Proofs.Session.Blocked
import CommandShell.Proofs.Text.Utf8
import CommandShell.Proofs.Input.Lines
import CommandShell.Proofs.World.Quiet
import CommandShell.Proofs.World.Written
import CommandShell.Proofs.World.Stock
import CommandShell.Proofs.Fault.Wording
import CommandShell.Proofs.Disk.Emptied
import CommandShell.Proofs.Session.Parts
import CommandShell.Proofs.Session.Dispatch
import CommandShell.Proofs.Session.Failures
import CommandShell.Proofs.Session.Footprint
import CommandShell.Proofs.Line.Segments
import CommandShell.Proofs.Program.Single
import CommandShell.Proofs.Session.Addressed
import CommandShell.Proofs.Session.Messages
import CommandShell.Proofs.Session.Diverted
import CommandShell.Proofs.Path.Length
import CommandShell.Proofs.Disk.Unlinked
import CommandShell.Proofs.Session.Destination
import CommandShell.Proofs.Text.RoundTrip
import CommandShell.Proofs.Session.Candidates
import CommandShell.Proofs.Session.Lookup
import CommandShell.Proofs.Line.Closed
import CommandShell.Proofs.Line.Apart
import CommandShell.Proofs.Line.Style
import CommandShell.Proofs.Input.Prompts
import CommandShell.Proofs.Text.Canonical
import CommandShell.Proofs.Program.Variables
import CommandShell.Proofs.Session.Supplies
import CommandShell.Proofs.Session.Limit
import CommandShell.Proofs.Session.Variables
import CommandShell.Proofs.Session.Started
import CommandShell.Proofs.Session.Heritage
import CommandShell.Proofs.Line.Completion
import CommandShell.Proofs.Path.Normal
import CommandShell.Proofs.Line.Settled
import CommandShell.Proofs.Session.Idle
import CommandShell.Proofs.Fault.Reason
