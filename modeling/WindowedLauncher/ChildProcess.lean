import WindowedLauncher.Host

/-!
# Child processes

A child process is started from three strings, waited for any number of times,
and released at the end, when both of its handles are closed.  A string that
holds a NUL before its last unit is refused before the system is asked for
anything.
-/

namespace WindowedLauncher

/-- A started process and the handles that keep it. -/
structure ChildProcess where
  process : Handle
  thread : Handle
  id : UInt32
deriving DecidableEq, Repr

namespace ChildProcess

variable {m : Type → Type} [Monad m] [Effects m]

/-- A string for the system, or the fault of a NUL inside it. -/
def handedOver (string : WideString) : Except Fault WideString :=
  string.terminated.mapError Fault.interiorNul

/-- The three strings of a request, or the fault of the first one that cannot
be handed over. -/
def handOver (application commandLine currentDirectory : WideString) :
    Except Fault (WideString × WideString × WideString) := do
  let application ← handedOver application
  let commandLine ← handedOver commandLine
  let currentDirectory ← handedOver currentDirectory
  return (application, commandLine, currentDirectory)

/-- Starts a process without a console window. -/
def start
    (host : Host)
    (application commandLine currentDirectory : WideString) :
    m (Except Fault ChildProcess) := do
  match handOver application commandLine currentDirectory with
  | .error fault => return .error fault
  | .ok (application, commandLine, currentDirectory) =>
    match ← host.startProcess
        application commandLine currentDirectory Host.createNoWindow with
    | .error fault => return .error fault
    | .ok information =>
      return .ok
        { process := information.process
          thread := information.thread
          id := information.id }

/-- Waits for a process to end, and gives its exit code. -/
def exitCode (host : Host) (child : ChildProcess) :
    m (Except Fault UInt32) := do
  match ← host.awaitEnd child.process with
  | .error fault => return .error fault
  | .ok () => host.exitCodeOf child.process

/-- Closes one handle of a process.  A failure is reported and has no other
effect. -/
def closeReporting (host : Host) (child : ChildProcess) (handle : Handle) :
    m Unit := do
  match ← host.close handle with
  | .ok () => return ()
  | .error fault =>
    Effects.report .warn .launcher
      ("unable to close handle of process " ++ toString child.id.toNat ++
        ": " ++ fault.message)

/-- Gives up a process: its thread handle is closed, and then its process
handle. -/
def release (host : Host) (child : ChildProcess) : m Unit := do
  closeReporting host child child.thread
  closeReporting host child child.process

/-- What can be asked about a child process. -/
inductive Query where
  | id
  | exitCode
deriving DecidableEq, Repr

/-- What is answered to a query. -/
inductive Answer where
  | id (number : UInt32)
  | exitCode (outcome : Except Fault UInt32)

/-- Asks about a child process.  The system is asked only for its exit code. -/
def ask (host : Host) (child : ChildProcess) : Query → m Answer
  | .id => return .id child.id
  | .exitCode => Answer.exitCode <$> exitCode host child

/-- Asks one query after the other. -/
def askAll (host : Host) (child : ChildProcess) : List Query → m (List Answer)
  | [] => return []
  | query :: queries => do
    let answer ← ask host child query
    let answers ← askAll host child queries
    return answer :: answers

/-- The whole life of a child process: it is started, asked, and released. -/
def lifeCycle
    (host : Host)
    (application commandLine currentDirectory : WideString)
    (queries : List Query) :
    m (Except Fault (List Answer)) := do
  match ← start host application commandLine currentDirectory with
  | .error fault => return .error fault
  | .ok child =>
    let answers ← askAll host child queries
    release host child
    return .ok answers

end ChildProcess

end WindowedLauncher
