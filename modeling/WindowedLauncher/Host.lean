import WindowedLauncher.Fault
import WindowedLauncher.Traced

/-!
# Hosts

A host is the system as a launcher meets it: what it answers to each question
and each call.  The functions below make one call each and turn the answer into
a value or a fault; what becomes of the call is up to the computation.
-/

namespace WindowedLauncher

/-- The array of arguments that the system makes of a command line, and the
number it gives for them. -/
structure ArgumentArray where
  items : List WideString
  count : Int32
deriving DecidableEq, Repr

/-- What the system gives for a process that it has started: two handles, and
the number of the process. -/
structure ProcessInformation where
  process : Handle
  thread : Handle
  id : UInt32
deriving DecidableEq, Repr

/-- The end of a wait: its status, and the error number left behind if the wait
failed. -/
structure WaitAnswer where
  status : UInt32
  errorNumber : Int32
deriving DecidableEq, Repr

/-- The status of a wait that failed. -/
def WaitAnswer.failedStatus : UInt32 := 0xFFFFFFFF

/-- The system, by its answers. -/
structure Host where
  /-- The path of the running executable, or the number of the error that hides
  it. -/
  imagePath : Except Int32 WideString
  commandLine : WideString
  /-- The arguments of any command line, or the number of the error in their
  place. -/
  arguments : Except Int32 ArgumentArray
  /-- The process that is started on request, or the failure to start it. -/
  creation : Except SystemError ProcessInformation
  wait : WaitAnswer
  exitCode : Except SystemError UInt32
  /-- The handles that cannot be closed, and the error of each. -/
  closeFailures : List (Handle × SystemError)

namespace Host

variable {m : Type → Type} [Monad m] [Effects m]

/-- A new process gets no console window. -/
def createNoWindow : UInt32 := 0x08000000

/-- A wait without a limit. -/
def infinite : UInt32 := 0xFFFFFFFF

/-- A dialog with an error icon and one button. -/
def errorStyle : UInt32 := 0x10

/-- The arguments in an array: as many as it counts, each up to its first
NUL. -/
def readArguments (array : ArgumentArray) : Except Fault (List WideString) :=
  if array.count < 0 then
    .error .negativeCount
  else
    .ok ((array.items.take array.count.toNatClampNeg).map WideString.untilNul)

/-- The arguments of a command line.  The array they come in is freed, also if
its count is no good. -/
def argumentsOf (host : Host) (commandLine : WideString) :
    m (Except Fault (List WideString)) := do
  Effects.call (.commandLineToArgv commandLine.untilNul)
  match host.arguments with
  | .error number => return .error (.osError number)
  | .ok array =>
    Effects.call .freeArgv
    return readArguments array

/-- The arguments of the running process. -/
def ownArguments (host : Host) : m (Except Fault (List WideString)) := do
  Effects.call .getCommandLine
  host.argumentsOf host.commandLine

/-- Asks for a process.  It does not inherit any handles. -/
def startProcess
    (host : Host)
    (application commandLine currentDirectory : WideString)
    (flags : UInt32) :
    m (Except Fault ProcessInformation) := do
  Effects.call (.createProcess
    { application, commandLine, currentDirectory, flags
      inheritHandles := false })
  return host.creation.mapError Fault.system

/-- Waits for the end of a process. -/
def awaitEnd (host : Host) (process : Handle) : m (Except Fault Unit) := do
  Effects.call (.waitForSingleObject process infinite)
  if host.wait.status = WaitAnswer.failedStatus then
    return .error (.osError host.wait.errorNumber)
  else
    return .ok ()

/-- The exit code of a process. -/
def exitCodeOf (host : Host) (process : Handle) : m (Except Fault UInt32) := do
  Effects.call (.getExitCodeProcess process)
  return host.exitCode.mapError Fault.system

/-- Closes a handle; one that names nothing is refused without asking the
system. -/
def close (host : Host) (handle : Handle) : m (Except Fault Unit) :=
  if handle.isInvalid then
    return .error .invalidHandle
  else do
    Effects.call (.closeHandle handle)
    match host.closeFailures.lookup handle with
    | none => return .ok ()
    | some error => return .error (.system error)

/-- Shows an error to the user, and returns when it has been dismissed. -/
def showError (title text : String) : m Unit :=
  Effects.call (.messageBox
    (WideString.ofString text).untilNul (WideString.ofString title).untilNul
    errorStyle)

end Host

end WindowedLauncher
