import WindowedLauncher.Activity
import WindowedLauncher.ChildProcess
import WindowedLauncher.CommandLine.Alphabet
import WindowedLauncher.CommandLine.Blocks
import WindowedLauncher.CommandLine.Faithful
import WindowedLauncher.CommandLine.Progress
import WindowedLauncher.CommandLine.Quoted
import WindowedLauncher.CommandLine.Split
import WindowedLauncher.Fault
import WindowedLauncher.Host
import WindowedLauncher.InstallDirectory
import WindowedLauncher.LaunchFailure
import WindowedLauncher.Launcher
import WindowedLauncher.Logging.Directive
import WindowedLauncher.Logging.Filter
import WindowedLauncher.Logging.Library
import WindowedLauncher.Logging.Record
import WindowedLauncher.Logging.Reporting
import WindowedLauncher.Logging.Session
import WindowedLauncher.Logging.Standard
import WindowedLauncher.Logging.TimeStamp
import WindowedLauncher.Logging.Volume
import WindowedLauncher.Main
import WindowedLauncher.ProgramOutput
import WindowedLauncher.Relay
import WindowedLauncher.Text.Alphabetic
import WindowedLauncher.Text.Classes
import WindowedLauncher.Text.Decimal
import WindowedLauncher.Text.Numeric
import WindowedLauncher.Text.Pattern.Bracketed
import WindowedLauncher.Text.Pattern.Element
import WindowedLauncher.Text.Pattern.Switches
import WindowedLauncher.Text.Pattern.WellFormed
import WindowedLauncher.Text.Slice
import WindowedLauncher.Traced
import WindowedLauncher.WideString
import WindowedLauncher.Proofs.Pieces
import WindowedLauncher.Proofs.Decoding
import WindowedLauncher.Proofs.Scanner
import WindowedLauncher.Proofs.Unambiguous
import WindowedLauncher.Proofs.Delivery
import WindowedLauncher.Proofs.Backslashes
import WindowedLauncher.Proofs.Decline
import WindowedLauncher.Proofs.RoundTrip
import WindowedLauncher.Proofs.RelayRun
import WindowedLauncher.Proofs.RunLengths
import WindowedLauncher.Proofs.ChildLife
import WindowedLauncher.Proofs.Handover
import WindowedLauncher.Proofs.Endings
import WindowedLauncher.Proofs.Outcome
import WindowedLauncher.Proofs.Resources
import WindowedLauncher.Proofs.Request
import WindowedLauncher.Proofs.Simulation
import WindowedLauncher.Proofs.Visits
import WindowedLauncher.Proofs.LogRecord
import WindowedLauncher.Proofs.Footprint
import WindowedLauncher.Proofs.Transparency
import WindowedLauncher.Proofs.LifeCycle
import WindowedLauncher.Proofs.Preparation
import WindowedLauncher.Proofs.Closing
import WindowedLauncher.Proofs.Misreading
import WindowedLauncher.Proofs.EmbeddedQuote
import WindowedLauncher.Proofs.DirectoryDerivation
import WindowedLauncher.Proofs.Requoting
import WindowedLauncher.Proofs.Subsequence
import WindowedLauncher.Proofs.Separation
import WindowedLauncher.Proofs.Fallback
import WindowedLauncher.Proofs.Truncation
import WindowedLauncher.Proofs.SurrogatePairs
