import WindowedLauncher.Launcher
import WindowedLauncher.Logging.Library
import WindowedLauncher.Logging.Volume

/-!
# Logging sessions

A session is one process as its log sees it: the volume it works on, the two
settings that steer the log, the subscriber that receives events once one is
installed, and what has been done with the reporting of errors.

A `Logged` computation carries a session along: each event is told where it is
reported, and the subscriber appends its record if the filter lets it through.
The steps of a session are such computations, the launches among them.  Only
one subscriber is ever installed, with the directory and the filter that are
set at that moment.
-/

namespace WindowedLauncher.Logging

/-- The name of the setting of the directory for the log. -/
def directorySetting : String := "NORTOOLS_LAUNCHER_LOG_DIR"

/-- The file name of the log. -/
def logName : String := "nortools-launcher.log"

/-- Who receives the events: a log file, and the filter in front of it. -/
structure Subscriber where
  file : Place
  admits : Event → Bool

/-- One process as its log sees it, with the libraries behind the log. -/
structure Session (library : Library) where
  volume : Volume
  logDirectory : Option String := none
  logFilter : Option String := none
  subscriber : Option Subscriber := none
  /-- What has been done with the reporting of errors, the last first. -/
  reporting : List ReportUse := []
  /-- How many events have been told. -/
  moment : Nat := 0

/-- What comes of setting up the log. -/
inductive LogOpening where
  /-- No directory is set for the log, or none that exists. -/
  | unused
  | installed
  /-- A subscriber is there already. -/
  | refused
  /-- The log file cannot be opened, or the setting of the filter cannot be
  read to its end. -/
  | aborted
deriving DecidableEq, Repr

/-- Whether the guard of the log is handed out. -/
def LogOpening.guard : LogOpening → Bool
  | .unused => false
  | .installed => true
  | .refused => false
  | .aborted => false

/-- A setting of a process. -/
inductive Setting where
  | logDirectory
  | logFilter
deriving DecidableEq, Repr

/-- What a process can be made to do. -/
inductive Step where
  /-- Changes a setting, or takes it away. -/
  | set (setting : Setting) (value : Option String)
  | openLog
  /-- Installs error reporting and sets up the log; neither failure is fatal. -/
  | prepare
  | event (severity : Severity) (message : String)
  | deriveDirectory (imagePath : WideString)
  | run (host : Host) (directory : InstallDirectory) (argv : List WideString)
  | launch (host : Host)

/-- What a step results in. -/
inductive Reply where
  | done
  | aborted
  /-- Whether preparing the process handed out the guard of the log. -/
  | prepared (guard : Bool)
  /-- Whether setting up the log handed out its guard, or in which words it was
  refused. -/
  | opened (guard : Except String Bool)
  | directory (directory : InstallDirectory)
  | ran (result : Except LaunchFailure UInt32)
  | launched (status : UInt32)

/-- Whether a reply tells of a fault that no event has told of. -/
def Reply.tellsOfFault : Reply → Bool
  | .ran (.error _) => true
  | _ => false

namespace Session

variable {library : Library}

/-- The existing directory that is set for the log. -/
def directory? (session : Session library) : Option Place :=
  session.logDirectory.bind session.volume.directory?

/-! ## Telling events -/

/-- Hands an event over to the subscriber, which appends its record if the
filter lets it through. -/
def receive (session : Session library) (event : Event) : Session library :=
  match session.subscriber with
  | none => session
  | some subscriber =>
    if subscriber.admits event then
      { session with
        volume := session.volume.append subscriber.file
          (library.record session.moment event) }
    else
      session

/-- Puts an error into words. -/
def describe (session : Session library) : Session library :=
  { session with reporting := .description :: session.reporting }

/-- Tells an event.  One that tells of a fault does so in words. -/
def tell (session : Session library) (event : Event) : Session library :=
  let told := { session.receive event with moment := session.moment + 1 }
  if Launcher.tellsOfFault event then told.describe else told

/-- Tells events, one after the other. -/
def tellAll (session : Session library) (events : List Event) :
    Session library :=
  events.foldl tell session

/-! ## Setting up the log -/

/-- Installs a subscriber that writes to the given file, unless there is one.
The refusal is put into words. -/
def subscribe
    (session : Session library) (file : Place) (admits : Event → Bool) :
    LogOpening × Session library :=
  match session.subscriber with
  | some _ => (.refused, session.describe)
  | none =>
    (.installed, { session with subscriber := some { file, admits } })

/-- Sets up the log in the directory that is set, if that exists.  The log file
is opened first, then the filter is read, and then the subscriber is
installed. -/
def openLog (session : Session library) : LogOpening × Session library :=
  match session.logDirectory, session.directory? with
  | some path, some directory =>
    let file := directory ++ [logName]
    if Volume.isTooLong (Volume.joined path logName) ||
        session.volume.isDirectory file then
      (.aborted, session)
    else
      let opened := { session with volume := session.volume.create file }
      match library.filter? session.logFilter with
      | none => (.aborted, opened)
      | some admits => opened.subscribe file admits
  | _, _ => (.unused, session)

/-- Installs error reporting, or gives the words in which that is refused. -/
def installReporting (session : Session library) :
    Option String × Session library :=
  (library.reportingRefusal? session.reporting,
    { session with reporting := .installation :: session.reporting })

/-- A value that cannot be a setting: a NUL would end it early. -/
def isUnsettable (value : Option String) : Bool :=
  value.any fun text => text.toList.contains '\x00'

/-- Changes a setting. -/
def set (session : Session library) (value : Option String) :
    Setting → Session library
  | .logDirectory => { session with logDirectory := value }
  | .logFilter => { session with logFilter := value }

/-- A session that works on a volume, with nothing set. -/
def start (volume : Volume) : Session library where
  volume := volume

end Session

/-! ## Taking steps -/

/-- A computation that meets a session and leaves one.  It tells each event
where it is reported. -/
abbrev Logged (library : Library) : Type → Type :=
  StateT (Session library) Traced

instance (library : Library) : Effects (Logged library) where
  call made := monadLift (Effects.call made : Traced Unit)
  report severity origin message := do
    modify (·.tell ⟨severity, origin, message⟩)
    monadLift (Effects.report severity origin message : Traced Unit)

/-- The reply to setting up the log by itself. -/
def openReply (library : Library) : LogOpening → Reply
  | .aborted => .aborted
  | .refused => .opened (.error library.subscriberRefusal)
  | .unused => .opened (.ok false)
  | .installed => .opened (.ok true)

section Preparing

variable {m : Type → Type} [Monad m] [Effects m]

/-- Warns of a refusal, if there is one. -/
def warn (words : String) (refusal : Option String) : m Unit :=
  match refusal with
  | none => return ()
  | some reason => Effects.report .warn .logging (words ++ reason)

/-- The words in which setting up the log is refused, if it is. -/
def LogOpening.refusal? (library : Library) (outcome : LogOpening) :
    Option String :=
  if outcome = .refused then some library.subscriberRefusal else none

/-- Warns of what was refused in preparing a process, and gives the reply. -/
def concludePreparing
    (library : Library) (outcome : LogOpening) (reporting : Option String) :
    m Reply :=
  if outcome = .aborted then
    return .aborted
  else do
    warn "unable to set up the log file: " (outcome.refusal? library)
    warn "unable to install error reporting: " reporting
    return .prepared outcome.guard

end Preparing

namespace Session

variable {library : Library}

/-- What a step does. -/
def perform : Step → Logged library Reply
  | .set setting value =>
    if isUnsettable value then
      return .aborted
    else do
      modify (·.set value setting)
      return .done
  | .openLog => do
    return openReply library (← modifyGet openLog)
  | .prepare => do
    let reporting ← modifyGet installReporting
    concludePreparing library (← modifyGet openLog) reporting
  | .event severity message => do
    Effects.report severity .program message
    return .done
  | .deriveDirectory imagePath => do
    return .directory (← InstallDirectory.ofImagePath imagePath)
  | .run host directory argv => do
    return .ran (← Launcher.run host directory argv)
  | .launch host => do
    return .launched (← Launcher.launch host)

/-- Takes a step.  A fault that only the reply tells of is put into words. -/
def step (taken : Step) : Logged library Reply := do
  let reply ← perform taken
  if reply.tellsOfFault then
    modify describe
  return reply

/-- Takes one step after the other, and gives what is seen of each. -/
def steps (session : Session library) :
    List Step → List (Traced Reply) × Session library
  | [] => ([], session)
  | taken :: rest =>
    let outcome := (step taken).run session
    let (answers, last) := outcome.value.2.steps rest
    ((Prod.fst <$> outcome) :: answers, last)

end Session

end WindowedLauncher.Logging
