import WindowedLauncher.Logging.Session

/-!
# Launching with a log and without

The launcher is written once, for every kind of computation.  Read as a
`Logged` computation it carries a session along, in which each event is told
where it is reported; read as a `Traced` one it knows of no session.  The
traced reading is what remains of the logged one without the session: they
come to the same value and are seen to do the same, and what becomes of the
session is that it is told of the events (`Follows`).

This holds of values and of single effects, and is kept where one computation
goes on from another.  From there it is carried through the launcher, function
by function, up to `follows_run` and `follows_launch`.
-/

namespace WindowedLauncher

namespace Logging

variable {library : Library} {α β : Type}

namespace Session

@[simp]
theorem tellAll_nil (session : Session library) :
    session.tellAll [] = session :=
  rfl

@[simp]
theorem tellAll_cons
    (session : Session library) (event : Event) (events : List Event) :
    session.tellAll (event :: events) = (session.tell event).tellAll events :=
  rfl

@[simp]
theorem tellAll_append
    (session : Session library) (first second : List Event) :
    session.tellAll (first ++ second) =
      (session.tellAll first).tellAll second :=
  List.foldl_append

end Session

/-- A logged computation does what a traced one does, and leaves the session
that has been told of its events, whatever session it meets. -/
structure Follows (logged : Logged library α) (traced : Traced α) : Prop where
  value : ∀ session, (logged.run session).value =
    (traced.value, session.tellAll traced.events)
  trace : ∀ session, (logged.run session).trace = traced.trace

namespace Follows

/-- A value is the same with a session and without. -/
theorem pure (value : α) :
    Follows (Pure.pure value : Logged library α) (Pure.pure value) :=
  ⟨fun _ => rfl, fun _ => rfl⟩

/-- A system call does not touch the session. -/
theorem call (made : Call) :
    Follows (Effects.call made : Logged library Unit) (Effects.call made) :=
  ⟨fun _ => rfl, fun _ => rfl⟩

/-- A report tells the session of one event. -/
theorem report (severity : Severity) (origin : Origin) (message : String) :
    Follows (Effects.report severity origin message : Logged library Unit)
      (Effects.report severity origin message) :=
  ⟨fun _ => rfl, fun _ => rfl⟩

/-- What goes on from a computation meets the session that this has left. -/
theorem bind
    {first : Logged library α} {traced : Traced α}
    {next : α → Logged library β} {other : α → Traced β}
    (before : Follows first traced)
    (after : ∀ value, Follows (next value) (other value)) :
    Follows (first >>= next) (traced >>= other) := by
  have met (session : Session library) : ((first >>= next).run session) =
      first.run session >>= fun left => (next left.1).run left.2 :=
    rfl
  constructor
  · intro session
    rw [met, Traced.value_bind, before.value, (after _).value,
      Traced.value_bind, Traced.events_bind, Session.tellAll_append]
  · intro session
    rw [met, Traced.trace_bind, before.value, before.trace, (after _).trace,
      Traced.trace_bind]

/-- A choice that is made without the session is made alike. -/
theorem ite
    {condition : Prop} [Decidable condition]
    {first second : Logged library α} {traced other : Traced α}
    (chosen : Follows first traced) (left : Follows second other) :
    Follows (if condition then first else second)
      (if condition then traced else other) := by
  split
  · exact chosen
  · exact left

end Follows

end Logging

open Logging

variable {library : Library}

/-! ## The host -/

namespace Host

variable (host : Host)

theorem follows_argumentsOf (commandLine : WideString) :
    Follows (host.argumentsOf commandLine : Logged library _)
      (host.argumentsOf commandLine) := by
  refine (Follows.call _).bind fun _ => ?_
  cases host.arguments with
  | error number => exact .pure _
  | ok array => exact (Follows.call _).bind fun _ => .pure _

theorem follows_ownArguments :
    Follows (host.ownArguments : Logged library _) host.ownArguments :=
  (Follows.call _).bind fun _ => host.follows_argumentsOf _

theorem follows_startProcess
    (application commandLine currentDirectory : WideString)
    (flags : UInt32) :
    Follows (host.startProcess application commandLine currentDirectory flags :
        Logged library _)
      (host.startProcess application commandLine currentDirectory flags) :=
  (Follows.call _).bind fun _ => .pure _

theorem follows_awaitEnd (process : Handle) :
    Follows (host.awaitEnd process : Logged library _)
      (host.awaitEnd process) :=
  (Follows.call _).bind fun _ => .ite (.pure _) (.pure _)

theorem follows_exitCodeOf (process : Handle) :
    Follows (host.exitCodeOf process : Logged library _)
      (host.exitCodeOf process) :=
  (Follows.call _).bind fun _ => .pure _

theorem follows_close (handle : Handle) :
    Follows (host.close handle : Logged library _) (host.close handle) := by
  refine .ite (.pure _) ?_
  refine (Follows.call _).bind fun _ => ?_
  cases host.closeFailures.lookup handle with
  | none => exact .pure _
  | some error => exact .pure _

theorem follows_showError (title text : String) :
    Follows (showError title text : Logged library _)
      (showError title text) :=
  .call _

end Host

/-! ## Child processes -/

namespace ChildProcess

variable (host : Host) (child : ChildProcess)

theorem follows_start (application commandLine currentDirectory : WideString) :
    Follows (start host application commandLine currentDirectory :
        Logged library _)
      (start host application commandLine currentDirectory) := by
  rw [start, start]
  cases handOver application commandLine currentDirectory with
  | error fault => exact .pure _
  | ok strings =>
      refine (host.follows_startProcess _ _ _ _).bind ?_
      rintro (fault | information)
      · exact .pure _
      · exact .pure _

theorem follows_exitCode :
    Follows (child.exitCode host : Logged library _) (child.exitCode host) := by
  refine (host.follows_awaitEnd _).bind ?_
  rintro (fault | ended)
  · exact .pure _
  · exact host.follows_exitCodeOf _

theorem follows_closeReporting (handle : Handle) :
    Follows (child.closeReporting host handle : Logged library _)
      (child.closeReporting host handle) := by
  refine (host.follows_close _).bind ?_
  rintro (fault | closed)
  · exact .report _ _ _
  · exact .pure _

/-- The log is told of handles that cannot be closed as they are given up. -/
theorem follows_release :
    Follows (child.release host : Logged library _) (child.release host) :=
  (child.follows_closeReporting host _).bind fun _ =>
    child.follows_closeReporting host _

end ChildProcess

/-! ## The install directory -/

namespace InstallDirectory

theorem follows_ofImagePath (imagePath : WideString) :
    Follows (ofImagePath imagePath : Logged library _)
      (ofImagePath imagePath) :=
  .ite ((Follows.report _ _ _).bind fun _ => .pure _) (.pure _)

theorem follows_ofHost (host : Host) :
    Follows (ofHost host : Logged library _) (ofHost host) := by
  rw [ofHost, ofHost]
  cases host.imagePath with
  | error number => exact (Follows.report _ _ _).bind fun _ => .pure _
  | ok imagePath => exact follows_ofImagePath imagePath

end InstallDirectory

/-! ## The launcher -/

namespace Launcher

variable (host : Host)

theorem follows_awaitChild (child : ChildProcess) :
    Follows (awaitChild host child : Logged library _)
      (awaitChild host child) := by
  refine (child.follows_exitCode host).bind ?_
  rintro (reason | exitCode)
  · exact .pure _
  · exact (Follows.report _ _ _).bind fun _ => .pure _

/-- A run does the same with a log and without, and tells the log of it. -/
theorem follows_run (directory : InstallDirectory) (argv : List WideString) :
    Follows (run host directory argv : Logged library _)
      (run host directory argv) := by
  refine (Follows.report _ _ _).bind fun _ => ?_
  refine (Follows.report _ _ _).bind fun _ => ?_
  refine (ChildProcess.follows_start host _ _ _).bind ?_
  rintro (reason | child)
  · exact .pure _
  · refine (Follows.report _ _ _).bind fun _ => ?_
    refine (follows_awaitChild host child).bind fun outcome => ?_
    exact (child.follows_release host).bind fun _ => .pure _

theorem follows_fail (failure : LaunchFailure) :
    Follows (fail failure : Logged library _) (fail failure) := by
  refine (Follows.report _ _ _).bind fun _ => ?_
  refine .ite ?_ (.pure _)
  exact (Host.follows_showError _ _).bind fun _ => .pure _

theorem follows_attempt :
    Follows (attempt host : Logged library _) (attempt host) := by
  refine (InstallDirectory.follows_ofHost host).bind fun directory => ?_
  refine host.follows_ownArguments.bind ?_
  rintro (reason | argv)
  · exact .pure _
  · exact follows_run host directory argv

/-- A launch does the same with a log and without, and tells the log of it. -/
theorem follows_launch :
    Follows (launch host : Logged library _) (launch host) := by
  refine (follows_attempt host).bind ?_
  rintro (failure | exitCode)
  · exact follows_fail failure
  · exact .pure _

end Launcher

end WindowedLauncher
