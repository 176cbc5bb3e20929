import WindowedLauncher.WideString

/-!
# What a launcher does

The outside world sees two things of a launcher: the system calls it makes and
the events it reports to whoever keeps a log.  An `Activity` is one of either.
The launcher is written once, for every kind of computation with these two
`Effects`: what becomes of a call or of an event is up to the computation.
-/

namespace WindowedLauncher

/-- A handle of the system, a signed machine word. -/
abbrev Handle := Int64

/-- The two values that never name an object. -/
def Handle.isInvalid (handle : Handle) : Bool :=
  handle = 0 || handle = -1

/-- How much an event matters, the least first. -/
inductive Severity where
  | trace
  | debug
  | info
  | warn
  | error
deriving DecidableEq, Repr

/-- The word for a severity in a log. -/
def Severity.name : Severity → String
  | .trace => "TRACE"
  | .debug => "DEBUG"
  | .info => "INFO"
  | .warn => "WARN"
  | .error => "ERROR"

/-- The place of a severity in the order of the severities. -/
def Severity.rank : Severity → Nat
  | .trace => 0
  | .debug => 1
  | .info => 2
  | .warn => 3
  | .error => 4

/-- The part of the program that reports an event. -/
inductive Origin where
  | program
  | installDirectory
  | launcher
  | logging
deriving DecidableEq, Repr

/-- The path by which a log and its filter name a part of the program. -/
def Origin.path : Origin → String
  | .program => "nortools_launcher"
  | .installDirectory => "nortools_launcher::install_dir"
  | .launcher => "nortools_launcher::launcher"
  | .logging => "nortools_launcher::logging"

/-- What is told of the program's work: how much it matters, who tells it, and
the message. -/
structure Event where
  severity : Severity
  origin : Origin
  message : String
deriving DecidableEq, Repr

/-- What is asked of the system when a process is to be started. -/
structure ProcessRequest where
  application : WideString
  commandLine : WideString
  currentDirectory : WideString
  inheritHandles : Bool
  flags : UInt32
deriving DecidableEq, Repr

/-- A system call, with its arguments as the system sees them. -/
inductive Call where
  | getCommandLine
  /-- Asks for the arguments of a command line, in an array that the caller has
  to free. -/
  | commandLineToArgv (commandLine : WideString)
  | freeArgv
  | createProcess (request : ProcessRequest)
  | waitForSingleObject (handle : Handle) (milliseconds : UInt32)
  | getExitCodeProcess (handle : Handle)
  | closeHandle (handle : Handle)
  | messageBox (text title : WideString) (style : UInt32)
deriving DecidableEq, Repr

/-- One thing that the outside world sees. -/
inductive Activity where
  | call (call : Call)
  | event (event : Event)
deriving DecidableEq, Repr

/-- The call of an activity, if it is one. -/
def Activity.call? : Activity → Option Call
  | .call made => some made
  | .event _ => none

/-- The event of an activity, if it is one. -/
def Activity.event? : Activity → Option Event
  | .call _ => none
  | .event reported => some reported

/-- What computations of one kind do when a system call is to be made, and when
an event is to be reported. -/
class Effects (m : Type → Type) where
  call : Call → m Unit
  report : Severity → Origin → String → m Unit

end WindowedLauncher
