import Mathlib.Data.List.Basic
import WindowedLauncher.Proofs.Endings

/-!
# Handles that cannot be closed

The handles of a child process are closed when nothing can be done about a
failure any more.  Two hosts that differ only in the handles that cannot be
closed are therefore given the same calls and the same result, and all else
that they see of a launcher is the same but for the warnings of the closing
(`closesQuietly`).  Those are one for each handle of a child that was created
and that names nothing or cannot be closed, after everything that waits.
-/

namespace WindowedLauncher

/-! ## What is seen of a closing -/

/-- The launcher has nothing else to warn of. -/
def Event.isCloseWarning (event : Event) : Bool :=
  event.origin = .launcher && event.severity = .warn

/-- A wait, or a question for the exit code that follows it. -/
def Call.awaits : Call → Bool
  | .waitForSingleObject _ _ => true
  | .getExitCodeProcess _ => true
  | _ => false

namespace Activity

/-- A warning of the launcher about a handle that it could not close. -/
def isCloseWarning (activity : Activity) : Bool :=
  activity.event?.any Event.isCloseWarning

/-- A call that waits for a child, or asks what it left. -/
def awaits (activity : Activity) : Bool :=
  activity.call?.any Call.awaits

end Activity

/-- Why a handle cannot be closed: it names nothing, or the host refuses. -/
def Host.closeFault? (host : Host) (handle : Handle) : Option Fault :=
  if handle.isInvalid then some .invalidHandle
  else (host.closeFailures.lookup handle).map .system

namespace ChildProcess

/-- What is told of a handle that could not be closed. -/
def closeWarning (child : ChildProcess) (fault : Fault) : Event where
  severity := .warn
  origin := .launcher
  message := "unable to close handle of process " ++
    toString child.id.toNat ++ ": " ++ fault.message

/-- What is told of the handles of a child, the thread's before the
process's. -/
def closeWarnings (host : Host) (child : ChildProcess) : List Event :=
  [child.thread, child.process].filterMap fun handle =>
    (host.closeFault? handle).map child.closeWarning

/-- Closing a handle is one call, and behind it a warning if it fails. -/
theorem trace_closeReporting
    (host : Host) (child : ChildProcess) (handle : Handle) :
    (child.closeReporting host handle).trace =
      (if handle.isInvalid then [] else [.call (.closeHandle handle)]) ++
        (((host.closeFault? handle).map child.closeWarning).map
          Activity.event).toList := by
  rw [closeReporting, Host.close, Host.closeFault?]
  cases handle.isInvalid with
  | true => rfl
  | false =>
      cases host.closeFailures.lookup handle with
      | none => rfl
      | some error => rfl

end ChildProcess

namespace Traced

variable {α β : Type}

/-- The warnings of closing, in order. -/
def closeWarnings (traced : Traced α) : List Event :=
  traced.events.filter Event.isCloseWarning

/-- The children that were created: the host grants every request, or none. -/
def children (traced : Traced α) (host : Host) : List ChildProcess :=
  (traced.calls.filter (·.concern = .creation)).flatMap fun _ =>
    (host.creation.toOption.map ChildProcess.ofInformation).toList

/-- Nothing is waited for behind a warning of closing. -/
def WarnsLast (traced : Traced α) : Prop :=
  traced.trace.Pairwise fun earlier later =>
    earlier.isCloseWarning = true → later.awaits = false

/-- The same comes of both, and they differ only in warnings of closing. -/
structure Alike (first second : Traced α) : Prop where
  value : first.value = second.value
  others : first.trace.filter (!·.isCloseWarning) =
    second.trace.filter (!·.isCloseWarning)

end Traced

/-- The closing of handles leaves no mark on a program but its warnings. -/
structure ClosesQuietly {α : Type} (program : Host → Traced α) : Prop where
  alike (host : Host) (failures : List (Handle × SystemError)) :
    (program host).Alike (program { host with closeFailures := failures })
  calls (host : Host) (failures : List (Handle × SystemError)) :
    (program host).calls =
      (program { host with closeFailures := failures }).calls
  warned (host : Host) :
    (program host).closeWarnings =
      ((program host).children host).flatMap
        (ChildProcess.closeWarnings host)
  warnsLast (host : Host) : (program host).WarnsLast

/-! ## Programs made of parts -/

namespace Traced

section Parts

variable {first second : Traced α} {next other : α → Traced β} {host : Host}

@[simp]
theorem closeWarnings_bind (first : Traced α) (next : α → Traced β) :
    (first >>= next).closeWarnings =
      first.closeWarnings ++ (next first.value).closeWarnings := by
  simp [closeWarnings]

@[simp]
theorem children_bind
    (first : Traced α) (next : α → Traced β) (host : Host) :
    (first >>= next).children host =
      first.children host ++ (next first.value).children host := by
  simp [children]

@[simp]
theorem closeWarnings_map (function : α → β) (traced : Traced α) :
    (function <$> traced).closeWarnings = traced.closeWarnings := by
  simp [closeWarnings]

@[simp]
theorem children_map
    (function : α → β) (traced : Traced α) (host : Host) :
    (function <$> traced).children host = traced.children host := by
  simp [children]

@[simp]
theorem children_report
    (severity : Severity) (origin : Origin) (message : String)
    (host : Host) :
    (Effects.report severity origin message : Traced Unit).children host =
      [] :=
  rfl

theorem closeWarnings_report_of_ne
    {severity : Severity} (differs : severity ≠ .warn)
    (origin : Origin) (message : String) :
    (Effects.report severity origin message : Traced Unit).closeWarnings =
      [] := by
  simp [closeWarnings, Event.isCloseWarning, differs]

theorem closeWarnings_eq_nil_of_events
    (silent : first.events = []) : first.closeWarnings = [] := by
  rw [closeWarnings, silent, List.filter_nil]

/-- Calls that are all made for something else create no child. -/
theorem children_eq_nil
    {concern : Concern} (other : concern ≠ .creation)
    (made : ∀ call ∈ first.calls, call.concern = concern) :
    first.children host = [] := by
  have none : first.calls.filter (·.concern = .creation) = [] := by
    rw [List.filter_eq_nil_iff]
    intro call member
    rw [made call member]
    simpa using other
  rw [children, none, List.flatMap_nil]

theorem Alike.refl (traced : Traced α) : traced.Alike traced :=
  ⟨rfl, rfl⟩

/-- What is alike stays alike if alike things follow. -/
theorem Alike.bind
    (alike : first.Alike second)
    (after : ∀ value, (next value).Alike (other value)) :
    (first >>= next).Alike (second >>= other) := by
  constructor
  · rw [value_bind, value_bind, alike.value]
    exact (after second.value).value
  · rw [trace_bind, trace_bind, List.filter_append, List.filter_append,
      alike.others, alike.value, (after second.value).others]

theorem call?_eq_none_of_isCloseWarning
    {activity : Activity} (warns : activity.isCloseWarning = true) :
    activity.call? = none := by
  cases activity with
  | call made => cases warns
  | event reported => rfl

/-- The calls of a trace are among what is left without the warnings. -/
theorem calls_eq_of_others (traced : Traced α) :
    traced.calls =
      (traced.trace.filter (!·.isCloseWarning)).filterMap
        Activity.call? := by
  rw [calls, List.filterMap_filter]
  refine List.filterMap_congr ?_
  intro activity _
  cases warns : activity.isCloseWarning with
  | false => rfl
  | true => exact call?_eq_none_of_isCloseWarning warns

theorem Alike.calls (alike : first.Alike second) :
    first.calls = second.calls := by
  rw [calls_eq_of_others, calls_eq_of_others, alike.others]

theorem isCloseWarning_eq_false
    (quiet : first.closeWarnings = [])
    {activity : Activity} (member : activity ∈ first.trace) :
    activity.isCloseWarning = false := by
  cases activity with
  | call made => rfl
  | event reported =>
      rw [closeWarnings, List.filter_eq_nil_iff] at quiet
      have told : reported ∈ first.events :=
        List.mem_filterMap.mpr ⟨.event reported, member, rfl⟩
      exact Bool.eq_false_iff.mpr (quiet reported told)

theorem awaits_eq_false
    (idle : ∀ call ∈ first.calls, call.awaits = false)
    {activity : Activity} (member : activity ∈ first.trace) :
    activity.awaits = false := by
  cases activity with
  | call made =>
      exact idle made (List.mem_filterMap.mpr ⟨.call made, member, rfl⟩)
  | event reported => rfl

/-- Who does not warn does not warn too early. -/
theorem WarnsLast.of_quiet (quiet : first.closeWarnings = []) :
    first.WarnsLast := by
  refine List.pairwise_of_forall_mem_list ?_
  intro earlier member later _ warns
  rw [isCloseWarning_eq_false quiet member] at warns
  cases warns

/-- Who does not wait has nothing to warn ahead of. -/
theorem WarnsLast.of_idle
    (idle : ∀ call ∈ first.calls, call.awaits = false) :
    first.WarnsLast := by
  refine List.pairwise_of_forall_mem_list ?_
  intro earlier _ later member _
  exact awaits_eq_false idle member

/-- What warns of nothing may come before. -/
theorem WarnsLast.bind_of_quiet
    (quiet : first.closeWarnings = [])
    (after : (next first.value).WarnsLast) :
    (first >>= next).WarnsLast := by
  rw [WarnsLast, trace_bind, List.pairwise_append]
  refine ⟨WarnsLast.of_quiet quiet, after, ?_⟩
  intro earlier member later _ warns
  rw [isCloseWarning_eq_false quiet member] at warns
  cases warns

/-- What waits for nothing may come behind. -/
theorem WarnsLast.bind_of_idle
    (before : first.WarnsLast)
    (idle : ∀ call ∈ (next first.value).calls, call.awaits = false) :
    (first >>= next).WarnsLast := by
  rw [WarnsLast, trace_bind, List.pairwise_append]
  refine ⟨before, WarnsLast.of_idle idle, ?_⟩
  intro earlier _ later member _
  exact awaits_eq_false idle member

end Parts

end Traced

/-! ## The release of a child -/

namespace ChildProcess

variable (host : Host) (child : ChildProcess)

theorem closeWarnings_closeReporting (handle : Handle) :
    (child.closeReporting host handle).closeWarnings =
      ((host.closeFault? handle).map child.closeWarning).toList := by
  rw [Traced.closeWarnings, Traced.events, trace_closeReporting]
  cases handle.isInvalid <;>
    cases host.closeFault? handle <;> rfl

theorem closeWarnings_release :
    (child.release host).closeWarnings = child.closeWarnings host := by
  rw [release, Traced.closeWarnings_bind, closeWarnings_closeReporting,
    closeWarnings_closeReporting, closeWarnings,
    List.filterMap_eq_flatMap_toList]
  simp

theorem alike_closeReporting
    (failures : List (Handle × SystemError)) (handle : Handle) :
    (child.closeReporting host handle).Alike
      (child.closeReporting { host with closeFailures := failures }
        handle) := by
  have others (host : Host) :
      (child.closeReporting host handle : Traced Unit).trace.filter
          (!·.isCloseWarning) =
        if handle.isInvalid then [] else [.call (.closeHandle handle)] := by
    rw [trace_closeReporting]
    cases handle.isInvalid <;>
      cases host.closeFault? handle <;> rfl
  exact ⟨rfl, (others host).trans (others _).symm⟩

/-- A child is released in the same way whether its handles can be closed or
not. -/
theorem alike_release (failures : List (Handle × SystemError)) :
    (child.release host).Alike
      (child.release { host with closeFailures := failures }) :=
  .bind (alike_closeReporting host child failures child.thread) fun _ =>
    alike_closeReporting host child failures child.process

theorem awaits_eq_false_of_mem_closeCalls
    {child : ChildProcess} {call : Call}
    (member : call ∈ child.closeCalls) : call.awaits = false := by
  obtain ⟨handle, -, rfl⟩ := List.mem_map.mp member
  rfl

/-- A start creates the child that it gives back, or none. -/
theorem children_start
    (application commandLine currentDirectory : WideString) :
    (start host application commandLine currentDirectory).children host =
      (start host application commandLine
        currentDirectory).value.toOption.toList := by
  cases taken : handOver application commandLine currentDirectory with
  | error fault =>
      rw [start_of_handOver_error host taken]
      rfl
  | ok strings =>
      rcases start_of_handOver_ok host taken with ⟨started, asked⟩
      rw [Traced.children, started, asked]
      cases host.creation with
      | error error => rfl
      | ok information => rfl

end ChildProcess

namespace Launcher

open ChildProcess

variable (host : Host)

/-! ## Runs of the target -/

section Run

theorem closeWarnings_awaitChild (child : ChildProcess) :
    (awaitChild host child).closeWarnings = [] := by
  have info : Severity.info ≠ .warn := by decide
  rw [awaitChild, Traced.closeWarnings_bind,
    Traced.closeWarnings_eq_nil_of_events (events_exitCode host child)]
  cases (child.exitCode host).value with
  | error reason => rfl
  | ok exitCode =>
      rw [List.nil_append, Traced.closeWarnings_bind,
        Traced.closeWarnings_report_of_ne info]
      rfl

theorem children_awaitChild (child : ChildProcess) :
    (awaitChild host child).children host = [] := by
  have other : Concern.child ≠ .creation := by decide
  refine Traced.children_eq_nil other ?_
  intro call member
  rw [calls_awaitChild] at member
  exact concern_of_mem_waitCalls member

theorem children_release (child : ChildProcess) :
    (child.release host).children host = [] := by
  have other : Concern.child ≠ .creation := by decide
  refine Traced.children_eq_nil other ?_
  intro call member
  rw [calls_release] at member
  exact concern_of_mem_closeCalls member

variable (directory : InstallDirectory) (argv : List WideString)

theorem alike_run (failures : List (Handle × SystemError)) :
    (run host directory argv).Alike
      (run { host with closeFailures := failures } directory argv) := by
  -- Up to the release, both hosts give the same answers.
  refine .bind (.refl _) fun _ => .bind (.refl _) fun _ =>
    .bind (.refl _) fun started => ?_
  cases started with
  | error reason => exact .refl _
  | ok child =>
      exact .bind (.refl _) fun _ => .bind (.refl _) fun _ =>
        .bind (alike_release host child failures) fun _ => .refl _

/-- A child that was started is released, and no other is. -/
theorem closeWarnings_run :
    (run host directory argv).closeWarnings =
      ((run host directory argv).children host).flatMap
        (ChildProcess.closeWarnings host) := by
  have debug : Severity.debug ≠ .warn := by decide
  have info : Severity.info ≠ .warn := by decide
  have silent := Traced.closeWarnings_eq_nil_of_events
    (events_start host directory.target (commandLine directory argv)
      directory.path)
  rw [run, Traced.closeWarnings_bind, Traced.closeWarnings_bind,
    Traced.closeWarnings_bind, Traced.closeWarnings_report_of_ne debug,
    Traced.closeWarnings_report_of_ne debug, silent]
  simp only [Traced.children_bind, Traced.children_report, children_start,
    List.nil_append]
  cases (start host directory.target (commandLine directory argv)
      directory.path).value with
  | error reason => rfl
  | ok child =>
      simp [Traced.closeWarnings_report_of_ne info,
        closeWarnings_awaitChild, closeWarnings_release,
        children_awaitChild, children_release, Except.toOption]

theorem warnsLast_run : (run host directory argv).WarnsLast := by
  have debug : Severity.debug ≠ .warn := by decide
  have info : Severity.info ≠ .warn := by decide
  refine .bind_of_quiet (Traced.closeWarnings_report_of_ne debug _ _) ?_
  refine .bind_of_quiet (Traced.closeWarnings_report_of_ne debug _ _) ?_
  refine .bind_of_quiet
    (Traced.closeWarnings_eq_nil_of_events (events_start ..)) ?_
  split
  · exact .of_quiet rfl
  · refine .bind_of_quiet (Traced.closeWarnings_report_of_ne info _ _) ?_
    refine .bind_of_quiet (closeWarnings_awaitChild ..) ?_
    refine .of_idle ?_
    intro call member
    rw [Traced.calls_bind, calls_release, Traced.calls_pure,
      List.append_nil] at member
    exact awaits_eq_false_of_mem_closeCalls member

end Run

/-- A run closes the handles of its child quietly. -/
theorem run_closesQuietly
    (directory : InstallDirectory) (argv : List WideString) :
    ClosesQuietly fun host => run host directory argv where
  alike host failures := alike_run host directory argv failures
  calls host failures := (alike_run host directory argv failures).calls
  warned host := closeWarnings_run host directory argv
  warnsLast host := warnsLast_run host directory argv

/-! ## Launches -/

theorem closeWarnings_ofHost :
    (InstallDirectory.ofHost host).closeWarnings = [] := by
  rw [Traced.closeWarnings, List.filter_eq_nil_iff]
  intro event member
  simp [Event.isCloseWarning,
    InstallDirectory.origin_of_mem_events_ofHost member]

theorem closeWarnings_conclude
    (outcome : Except LaunchFailure UInt32) :
    (conclude outcome).closeWarnings = [] := by
  cases outcome with
  | ok exitCode => rfl
  | error failure => cases failure <;> rfl

theorem children_ofHost :
    (InstallDirectory.ofHost host).children host = [] := by
  rw [Traced.children, InstallDirectory.calls_ofHost]
  rfl

theorem children_ownArguments : host.ownArguments.children host = [] := by
  have other : Concern.arguments ≠ .creation := by decide
  refine Traced.children_eq_nil other ?_
  intro call member
  rw [Host.calls_ownArguments] at member
  exact Host.concern_of_mem_argumentCalls member

theorem children_conclude (outcome : Except LaunchFailure UInt32) :
    (conclude outcome).children host = [] := by
  have other : Concern.user ≠ .creation := by decide
  exact Traced.children_eq_nil other fun _ => concern_of_mem_conclude

/-- A launch is the same whether handles can be closed or not, warnings
aside. -/
theorem alike_launch (failures : List (Handle × SystemError)) :
    (launch host).Alike
      (launch { host with closeFailures := failures }) := by
  rw [launch_eq, launch_eq]
  refine .bind ?_ fun outcome => .refl _
  refine .bind (.refl _) fun directory => .bind (.refl _) fun read => ?_
  cases read with
  | error reason => exact .refl _
  | ok argv => exact alike_run host directory argv failures

/-- A launch warns once for each handle of its child that cannot be closed. -/
theorem closeWarnings_launch :
    (launch host).closeWarnings =
      ((launch host).children host).flatMap
        (ChildProcess.closeWarnings host) := by
  rw [launch_eq, Traced.closeWarnings_bind, closeWarnings_conclude,
    List.append_nil, Traced.children_bind, children_conclude,
    List.append_nil]
  -- Before the run of the target, nothing is warned of and no child created.
  rw [attempt, Traced.closeWarnings_bind, closeWarnings_ofHost,
    Traced.closeWarnings_bind,
    Traced.closeWarnings_eq_nil_of_events host.events_ownArguments,
    Traced.children_bind, children_ofHost, Traced.children_bind,
    children_ownArguments]
  cases host.ownArguments.value with
  | error reason => rfl
  | ok argv => exact closeWarnings_run host _ argv

theorem warnsLast_launch : (launch host).WarnsLast := by
  rw [launch_eq]
  refine .bind_of_idle ?_ ?_
  · refine .bind_of_quiet (closeWarnings_ofHost host) ?_
    refine .bind_of_quiet
      (Traced.closeWarnings_eq_nil_of_events host.events_ownArguments) ?_
    cases host.ownArguments.value with
    | error reason => exact .of_quiet rfl
    | ok argv => exact warnsLast_run host _ argv
  · intro call member
    cases call with
    | waitForSingleObject => cases concern_of_mem_conclude member
    | getExitCodeProcess => cases concern_of_mem_conclude member
    | _ => rfl

/-- A run of any target and a launch give the same result and make the same
calls whichever handles cannot be closed, and nothing else is seen of the
difference than the warnings of closing. -/
theorem closesQuietly :
    (∀ directory argv,
      ClosesQuietly fun host => run host directory argv) ∧
    ClosesQuietly launch := by
  refine ⟨run_closesQuietly, ?_⟩
  exact
    { alike := alike_launch
      calls := fun host failures => (alike_launch host failures).calls
      warned := closeWarnings_launch
      warnsLast := warnsLast_launch }

end Launcher

end WindowedLauncher
