import WindowedLauncher.ChildProcess
import WindowedLauncher.CommandLine.Quoted
import WindowedLauncher.InstallDirectory
import WindowedLauncher.LaunchFailure

/-!
# The launcher

`run` starts the target of an install directory with everything after argument
0, waits for it, and gives its exit code.  `launch` does so for the running
process, and turns a failure into an exit status: it reports every failure, and
shows a dialog if no child could be started.
-/

namespace WindowedLauncher

namespace Launcher

variable {m : Type → Type} [Monad m] [Effects m]

/-- The title of the dialog that tells of a child that could not be started. -/
def dialogTitle : String := "NorTools Launcher"

/-- The text of that dialog. -/
def dialogMessage : String := "Failed to start nortools.exe"

/-- Whether an event tells of a fault: the warnings and the errors of the
launcher do. -/
def tellsOfFault (event : Event) : Bool :=
  event.origin = .launcher && Severity.warn.rank ≤ event.severity.rank

/-- The command line by which a target is started with the arguments after
argument 0. -/
def commandLine (directory : InstallDirectory) (argv : List WideString) :
    WideString :=
  CommandLine.ofArguments directory.target (CommandLine.handedOn argv)

/-- Waits for a child, and reports the exit code that it brings. -/
def awaitChild (host : Host) (child : ChildProcess) :
    m (Except LaunchFailure UInt32) := do
  match ← child.exitCode host with
  | .error reason => return .error (.exitCode reason)
  | .ok exitCode =>
    Effects.report .info .launcher
      ("process " ++ toString child.id.toNat ++ " exited with code " ++
        toString exitCode.toNat)
    return .ok exitCode

/-- Runs the target of a directory with the arguments after argument 0, and
gives its exit code. -/
def run (host : Host) (directory : InstallDirectory) (argv : List WideString) :
    m (Except LaunchFailure UInt32) := do
  let target := directory.target
  let commandLine := commandLine directory argv
  Effects.report .debug .launcher
    ("install directory: " ++ directory.path.display)
  Effects.report .debug .launcher ("command line: " ++ commandLine.display)
  match ← ChildProcess.start host target commandLine directory.path with
  | .error reason => return .error (.start target.display reason)
  | .ok child =>
    Effects.report .info .launcher
      ("started " ++ target.display ++ " with process id " ++
        toString child.id.toNat)
    let outcome ← awaitChild host child
    child.release host
    return outcome

/-- Reports a launch failure, shows it to the user if need be, and gives the
exit status. -/
def fail (failure : LaunchFailure) : m UInt32 := do
  Effects.report .error .launcher failure.message
  if failure.isShownToUser then
    Host.showError dialogTitle dialogMessage
  return failure.exitStatus

/-- Runs the target beside the running executable with the arguments of the
running process. -/
def attempt (host : Host) : m (Except LaunchFailure UInt32) := do
  let directory ← InstallDirectory.ofHost host
  match ← host.ownArguments with
  | .error reason => return .error (.arguments reason)
  | .ok argv => run host directory argv

/-- A whole launch: the exit status is the target's exit code, or tells of the
failure. -/
def launch (host : Host) : m UInt32 := do
  match ← attempt host with
  | .ok exitCode => return exitCode
  | .error failure => fail failure

end Launcher

end WindowedLauncher
