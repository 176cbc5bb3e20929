import WindowedLauncher.Proofs.ChildLife
import WindowedLauncher.Proofs.Handover

/-!
# How a launch ends

An attempt to run the target ends in one of four ways, and each fixes both
what comes of it and which calls were made (`attempt_ends`).  What holds of
every launch is read off these four; nothing else looks inside the launcher.
An attempt reports no error of its own (`errors_attempt`).
-/

namespace WindowedLauncher

/-! ## What calls are about -/

/-- What a system call of a launch is made for. -/
inductive Concern where
  | arguments
  | creation
  /-- The child: it is waited for, asked for its exit code, or given up. -/
  | child
  | user
deriving DecidableEq

/-- What a call is about. -/
def Call.concern : Call → Concern
  | .getCommandLine => .arguments
  | .commandLineToArgv _ => .arguments
  | .freeArgv => .arguments
  | .createProcess _ => .creation
  | .waitForSingleObject _ _ => .child
  | .getExitCodeProcess _ => .child
  | .closeHandle _ => .child
  | .messageBox _ _ _ => .user

theorem concern_of_mem_waitCalls
    {host : Host} {process : Handle} {call : Call}
    (member : call ∈ host.waitCalls process) :
    call.concern = .child := by
  rw [Host.waitCalls, List.mem_cons] at member
  rcases member with rfl | later
  · rfl
  · split at later
    · exact absurd later List.not_mem_nil
    · rw [List.mem_singleton.mp later]
      rfl

theorem concern_of_mem_closeCalls
    {child : ChildProcess} {call : Call}
    (member : call ∈ child.closeCalls) :
    call.concern = .child := by
  obtain ⟨handle, -, rfl⟩ := List.mem_map.mp member
  rfl

/-! ## The arguments of the running process -/

namespace Host

/-- The host gives an array of arguments, and a count that is not negative. -/
def GivesArguments (host : Host) : Prop :=
  ∃ array, host.arguments = .ok array ∧ 0 ≤ array.count

/-- The calls that obtain the arguments.  An array that was given is freed. -/
def argumentCalls (host : Host) : List Call :=
  [.getCommandLine, .commandLineToArgv host.commandLine.untilNul] ++
    match host.arguments with
    | .error _ => []
    | .ok _ => [.freeArgv]

theorem calls_ownArguments (host : Host) :
    host.ownArguments.calls = host.argumentCalls := by
  rw [ownArguments, argumentsOf, argumentCalls]
  cases host.arguments <;> simp

theorem concern_of_mem_argumentCalls
    {host : Host} {call : Call} (member : call ∈ host.argumentCalls) :
    call.concern = .arguments := by
  rw [argumentCalls, List.mem_append] at member
  rcases member with first | freed
  · rcases List.mem_cons.mp first with rfl | second
    · rfl
    · rw [List.mem_singleton.mp second]
      rfl
  · split at freed
    · exact absurd freed List.not_mem_nil
    · rw [List.mem_singleton.mp freed]
      rfl

theorem createProcess_not_mem_argumentCalls
    (host : Host) (request : ProcessRequest) :
    .createProcess request ∉ host.argumentCalls :=
  mt concern_of_mem_argumentCalls (by simp [Call.concern])

theorem events_ownArguments (host : Host) :
    host.ownArguments.events = [] := by
  rw [ownArguments, argumentsOf]
  cases host.arguments <;> simp

theorem errors_ownArguments (host : Host) :
    host.ownArguments.eventsAt .error = [] := by
  rw [Traced.eventsAt, events_ownArguments, List.filter_nil]

theorem value_ownArguments_of_ok
    {host : Host} {array : ArgumentArray}
    (given : host.arguments = .ok array) :
    host.ownArguments.value = readArguments array := by
  simp [ownArguments, argumentsOf, given]

theorem value_ownArguments_of_error
    {host : Host} {number : Int32}
    (refused : host.arguments = .error number) :
    host.ownArguments.value = .error (.osError number) := by
  simp [ownArguments, argumentsOf, refused]

theorem givesArguments_iff (host : Host) :
    host.GivesArguments ↔ ∃ argv, host.ownArguments.value = .ok argv := by
  rw [GivesArguments]
  cases given : host.arguments with
  | error number => simp [value_ownArguments_of_error given]
  | ok array =>
      rw [value_ownArguments_of_ok given, readArguments]
      by_cases negative : array.count < 0
      · simp [negative]
      · simp [negative, Int32.not_lt.mp negative]

/-- The arguments of a process are cut before their first NUL. -/
theorem nul_not_mem_of_value_ownArguments
    {host : Host} {argv : List WideString}
    (read : host.ownArguments.value = .ok argv) :
    ∀ argument ∈ argv, 0 ∉ argument := by
  cases given : host.arguments with
  | error number =>
      rw [value_ownArguments_of_error given] at read
      exact absurd read (by simp)
  | ok array =>
      rw [value_ownArguments_of_ok given, readArguments] at read
      by_cases negative : array.count < 0
      · simp [negative] at read
      · rw [if_neg negative] at read
        cases read
        rintro argument member
        obtain ⟨item, -, rfl⟩ := List.mem_map.mp member
        exact item.not_mem_untilNul

end Host

/-! ## The directory of the running executable -/

namespace InstallDirectory

theorem calls_ofHost (host : Host) : (ofHost host).calls = [] := by
  rw [ofHost]
  cases host.imagePath with
  | error number => rfl
  | ok imagePath =>
      simp only [ofImagePath]
      split <;> rfl

theorem errors_ofHost (host : Host) :
    (ofHost host).eventsAt .error = [] := by
  rw [ofHost]
  cases host.imagePath with
  | error number => rfl
  | ok imagePath =>
      simp only [ofImagePath]
      split <;> rfl

end InstallDirectory

namespace Launcher

open ChildProcess

/-! ## Runs of the target -/

/-- What is asked of the system to start the target of a directory. -/
def request (directory : InstallDirectory) (argv : List WideString) :
    ProcessRequest where
  application := directory.target
  commandLine := commandLine directory argv
  currentDirectory := directory.path
  inheritHandles := false
  flags := Host.createNoWindow

variable {host : Host} {directory : InstallDirectory}
  {argv : List WideString}

theorem value_awaitChild (child : ChildProcess) :
    (awaitChild host child).value =
      host.waitOutcome.mapError .exitCode := by
  rw [awaitChild, Traced.value_bind, value_exitCode]
  cases host.waitOutcome <;> rfl

theorem calls_awaitChild (child : ChildProcess) :
    (awaitChild host child).calls = host.waitCalls child.process := by
  rw [awaitChild, Traced.calls_bind, value_exitCode, calls_exitCode]
  cases host.waitOutcome <;> simp

theorem errors_awaitChild (child : ChildProcess) :
    (awaitChild host child).eventsAt .error = [] := by
  rw [awaitChild, Traced.eventsAt_bind, value_exitCode, errors_exitCode]
  cases host.waitOutcome <;> rfl

theorem run_of_start_error
    {reason : Fault}
    (failed : (start host directory.target (commandLine directory argv)
      directory.path).value = .error reason) :
    (run host directory argv).value =
        .error (.start directory.target.display reason) ∧
      (run host directory argv).calls =
        (start host directory.target (commandLine directory argv)
          directory.path).calls := by
  simp [run, failed]

/-- A run waits for the child that it has started, and then closes it. -/
theorem run_of_start_ok
    {child : ChildProcess}
    (started : (start host directory.target (commandLine directory argv)
      directory.path).value = .ok child) :
    (run host directory argv).value =
        host.waitOutcome.mapError .exitCode ∧
      (run host directory argv).calls =
        (start host directory.target (commandLine directory argv)
          directory.path).calls ++
            (host.waitCalls child.process ++ child.closeCalls) := by
  simp [run, started, value_awaitChild, calls_awaitChild, calls_release]

/-- Strings that cannot be handed over keep the target from being asked for. -/
theorem run_of_handOver_error
    {fault : Fault}
    (refused : handOver directory.target (commandLine directory argv)
      directory.path = .error fault) :
    (run host directory argv).value =
        .error (.start directory.target.display fault) ∧
      (run host directory argv).calls = [] := by
  have unstarted := start_of_handOver_error host refused
  have failed := congrArg Traced.value unstarted
  rcases run_of_start_error failed with ⟨value, calls⟩
  rw [unstarted] at calls
  exact ⟨value, calls⟩

/-- A NUL in the directory keeps the target from being asked for. -/
theorem run_of_nul
    (host : Host) (nul : 0 ∈ directory.path) (argv : List WideString) :
    (run host directory argv).value =
        .error (.start directory.target.display
          (.interiorNul (directory.path.findIdx (· == 0)))) ∧
      (run host directory argv).calls = [] :=
  run_of_handOver_error (handOver_request_of_mem nul argv)

/-- A run whose child is refused has made one call. -/
theorem run_of_refused
    (noNul : 0 ∉ directory.path) (plain : ∀ argument ∈ argv, 0 ∉ argument)
    {error : SystemError} (refused : host.creation = .error error) :
    (run host directory argv).value =
        .error (.start directory.target.display (.system error)) ∧
      (run host directory argv).calls =
        [.createProcess (request directory argv)] := by
  rcases start_of_handOver_ok host
    (handOver_request_of_not_mem noNul plain) with ⟨started, asked⟩
  rw [refused] at started
  rcases run_of_start_error started with ⟨value, calls⟩
  exact ⟨value, calls.trans asked⟩

/-- A run whose child is created waits for it and closes it. -/
theorem run_of_created
    (noNul : 0 ∉ directory.path) (plain : ∀ argument ∈ argv, 0 ∉ argument)
    {information : ProcessInformation}
    (created : host.creation = .ok information) :
    (run host directory argv).value =
        host.waitOutcome.mapError .exitCode ∧
      (run host directory argv).calls =
        .createProcess (request directory argv) ::
          (host.waitCalls information.process ++
            closeCalls (.ofInformation information)) := by
  rcases start_of_handOver_ok host
    (handOver_request_of_not_mem noNul plain) with ⟨started, asked⟩
  rw [created] at started
  rcases run_of_start_ok started with ⟨value, calls⟩
  rw [asked] at calls
  exact ⟨value, calls⟩

/-- A run leaves its errors to the one who called for it. -/
theorem errors_run :
    (run host directory argv).eventsAt .error = [] := by
  have debug : Severity.debug ≠ .error := by decide
  have info : Severity.info ≠ .error := by decide
  rw [run, Traced.eventsAt_bind, Traced.eventsAt_bind,
    Traced.eventsAt_bind, Traced.eventsAt_report_of_ne debug,
    Traced.eventsAt_report_of_ne debug, errors_start]
  split
  · rfl
  · rw [Traced.eventsAt_bind, Traced.eventsAt_bind, Traced.eventsAt_bind,
      Traced.eventsAt_report_of_ne info, errors_awaitChild,
      errors_release]
    rfl

end Launcher

/-! ## Attempts -/

/-- The directory that the target of a launch is looked for in. -/
def Host.directory (host : Host) : InstallDirectory :=
  (InstallDirectory.ofHost host).value

namespace Launcher

open ChildProcess

/-- The ways in which an attempt ends: what comes of it, and its calls. -/
inductive Ending (host : Host) :
    Except LaunchFailure UInt32 → List Call → Prop where
  | withoutArguments
      {reason : Fault}
      (unread : host.ownArguments.value = .error reason) :
      Ending host (.error (.arguments reason)) host.argumentCalls
  | withNul
      {argv : List WideString}
      (read : host.ownArguments.value = .ok argv)
      (nul : 0 ∈ host.directory.path) :
      Ending host
        (.error (.start host.directory.target.display
          (.interiorNul (host.directory.path.findIdx (· == 0)))))
        host.argumentCalls
  | withoutChild
      {argv : List WideString}
      (read : host.ownArguments.value = .ok argv)
      (noNul : 0 ∉ host.directory.path)
      {error : SystemError}
      (refused : host.creation = .error error) :
      Ending host
        (.error (.start host.directory.target.display (.system error)))
        (host.argumentCalls ++
          [.createProcess (request host.directory argv)])
  | withChild
      {argv : List WideString}
      (read : host.ownArguments.value = .ok argv)
      (noNul : 0 ∉ host.directory.path)
      {information : ProcessInformation}
      (created : host.creation = .ok information) :
      Ending host (host.waitOutcome.mapError .exitCode)
        (host.argumentCalls ++
          .createProcess (request host.directory argv) ::
            (host.waitCalls information.process ++
              closeCalls (.ofInformation information)))

/-- No attempt says anything to the user. -/
theorem Ending.concern_ne_user
    {host : Host} {outcome : Except LaunchFailure UInt32} {calls : List Call}
    (ends : Ending host outcome calls) :
    ∀ call ∈ calls, call.concern ≠ .user := by
  have arguments : ∀ call ∈ host.argumentCalls, call.concern ≠ .user := by
    intro call member
    rw [Host.concern_of_mem_argumentCalls member]
    decide
  cases ends with
  | withoutArguments unread => exact arguments
  | withNul read nul => exact arguments
  | withoutChild read noNul refused =>
      rw [List.forall_mem_append, List.forall_mem_singleton]
      exact ⟨arguments, by simp [Call.concern]⟩
  | withChild read noNul created =>
      rw [List.forall_mem_append, List.forall_mem_cons,
        List.forall_mem_append]
      refine ⟨arguments, by simp [Call.concern], ?_, ?_⟩
      · intro call member
        rw [concern_of_mem_waitCalls member]
        decide
      · intro call member
        rw [concern_of_mem_closeCalls member]
        decide

variable (host : Host)

theorem attempt_of_unread
    {reason : Fault} (unread : host.ownArguments.value = .error reason) :
    (attempt host).value = .error (.arguments reason) ∧
      (attempt host).calls = host.argumentCalls := by
  simp [attempt, unread, InstallDirectory.calls_ofHost,
    Host.calls_ownArguments]

theorem attempt_of_read
    {argv : List WideString} (read : host.ownArguments.value = .ok argv) :
    (attempt host).value = (run host host.directory argv).value ∧
      (attempt host).calls =
        host.argumentCalls ++ (run host host.directory argv).calls := by
  simp [attempt, read, InstallDirectory.calls_ofHost,
    Host.calls_ownArguments, Host.directory]

/-- An attempt comes to one of the endings. -/
theorem attempt_ends :
    Ending host (attempt host).value (attempt host).calls := by
  cases arguments : host.ownArguments.value with
  | error reason =>
      rcases attempt_of_unread host arguments with ⟨value, calls⟩
      rw [value, calls]
      exact .withoutArguments arguments
  | ok argv =>
      have plain := Host.nul_not_mem_of_value_ownArguments arguments
      rcases attempt_of_read host arguments with ⟨value, calls⟩
      rw [value, calls]
      by_cases nul : 0 ∈ host.directory.path
      · rcases run_of_nul host nul argv with ⟨value, calls⟩
        rw [value, calls, List.append_nil]
        exact .withNul arguments nul
      · cases creation : host.creation with
        | error error =>
            rcases run_of_refused nul plain creation with ⟨value, calls⟩
            rw [value, calls]
            exact .withoutChild arguments nul creation
        | ok information =>
            rcases run_of_created nul plain creation with ⟨value, calls⟩
            rw [value, calls]
            exact .withChild arguments nul creation

theorem errors_attempt : (attempt host).eventsAt .error = [] := by
  rw [attempt, Traced.eventsAt_bind, Traced.eventsAt_bind,
    InstallDirectory.errors_ofHost, Host.errors_ownArguments]
  split
  · rfl
  · exact errors_run

/-! ## Launches -/

/-- What follows an attempt: its exit code is passed on, or its failure is
told. -/
def conclude : Except LaunchFailure UInt32 → Traced UInt32
  | .ok exitCode => pure exitCode
  | .error failure => fail failure

/-- A launch is an attempt and what is concluded from it. -/
theorem launch_eq : launch host = attempt host >>= conclude := by
  refine bind_congr ?_
  intro outcome
  cases outcome <;> rfl

/-- The dialog that tells of a target that could not be started. -/
def failureDialog : Call :=
  .messageBox (WideString.ofString dialogMessage).untilNul
    (WideString.ofString dialogTitle).untilNul Host.errorStyle

theorem conclude_ok (exitCode : UInt32) :
    conclude (.ok exitCode) = pure exitCode :=
  rfl

/-- A failure is reported, and shown where the user can do something about
it. -/
theorem conclude_error (failure : LaunchFailure) :
    conclude (.error failure) =
      ⟨failureStatus, .event ⟨.error, .launcher, failure.message⟩ ::
        if failure.isShownToUser then [.call failureDialog] else []⟩ := by
  cases failure <;> rfl

theorem calls_conclude_error (failure : LaunchFailure) :
    (conclude (.error failure)).calls =
      if failure.isShownToUser then [failureDialog] else [] := by
  cases failure <;> rfl

theorem errors_conclude_error (failure : LaunchFailure) :
    (conclude (.error failure)).eventsAt .error =
      [⟨.error, .launcher, failure.message⟩] := by
  cases failure <;> rfl

theorem concern_of_mem_conclude
    {outcome : Except LaunchFailure UInt32} {call : Call}
    (member : call ∈ (conclude outcome).calls) :
    call.concern = .user := by
  cases outcome with
  | ok exitCode => exact absurd member List.not_mem_nil
  | error failure =>
      rw [calls_conclude_error] at member
      split at member
      · rw [List.mem_singleton.mp member]
        rfl
      · exact absurd member List.not_mem_nil

/-- Only a dialog can stand in a launch and not in its attempt. -/
theorem mem_calls_launch_iff
    {call : Call} (notShown : call.concern ≠ .user) :
    call ∈ (launch host).calls ↔ call ∈ (attempt host).calls := by
  rw [launch_eq, Traced.calls_bind, List.mem_append]
  exact or_iff_left (mt concern_of_mem_conclude notShown)

/-- A child is created: the system is asked for one, and gives it. -/
def StartsChild (host : Host) : Prop :=
  (∃ request, .createProcess request ∈ (launch host).calls) ∧
    ∃ information, host.creation = .ok information

end Launcher

end WindowedLauncher
