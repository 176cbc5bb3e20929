import WindowedLauncher.ChildProcess

/-!
# The life of a child process

What a child process makes of the answers of its host, question by question:
which calls are made, what comes of them, and that no event is an error.  Its
start is refused before any call (`start_of_handOver_error`), or is one call
(`start_of_handOver_ok`); a wait asks for the exit code only if it has not
failed; and a release closes both handles, whatever the host answers
(`calls_release`).
-/

namespace WindowedLauncher

/-! ## The calls of one question -/

namespace Host

/-- The calls of a wait: the exit code is asked for only if it succeeds. -/
def waitCalls (host : Host) (process : Handle) : List Call :=
  .waitForSingleObject process infinite ::
    if host.wait.status = WaitAnswer.failedStatus then []
    else [.getExitCodeProcess process]

/-- The exit code that a wait brings, or the fault that keeps it back. -/
def waitOutcome (host : Host) : Except Fault UInt32 :=
  if host.wait.status = WaitAnswer.failedStatus then
    .error (.osError host.wait.errorNumber)
  else
    host.exitCode.mapError .system

/-- Waiting gives a status if neither the wait nor the query fails. -/
theorem waitOutcome_eq_ok_iff (host : Host) (code : UInt32) :
    host.waitOutcome = .ok code ↔
      host.wait.status ≠ WaitAnswer.failedStatus ∧
        host.exitCode = .ok code := by
  rw [waitOutcome]
  by_cases failed : host.wait.status = WaitAnswer.failedStatus
  · simp [failed]
  · rw [if_neg failed, and_iff_right failed]
    cases host.exitCode with
    | error error => exact iff_of_false nofun nofun
    | ok stored =>
        change Except.ok stored = Except.ok code ↔ _
        rw [Except.ok.injEq, Except.ok.injEq]

theorem calls_close (host : Host) (handle : Handle) :
    (host.close handle).calls =
      if handle.isInvalid then [] else [.closeHandle handle] := by
  unfold close
  split
  · rfl
  · rw [Traced.calls_bind, Traced.calls_call]
    split <;> rfl

theorem errors_close (host : Host) (handle : Handle) :
    (host.close handle).eventsAt .error = [] := by
  unfold close
  split
  · rfl
  · rw [Traced.eventsAt_bind, Traced.eventsAt_call]
    split <;> rfl

end Host

namespace ChildProcess

theorem value_exitCode (host : Host) (child : ChildProcess) :
    (child.exitCode host).value = host.waitOutcome := by
  rw [exitCode, Traced.value_bind, Host.awaitEnd, Host.waitOutcome]
  by_cases failed : host.wait.status = WaitAnswer.failedStatus
  · simp [failed]
  · simp [failed, Host.exitCodeOf]

theorem calls_exitCode (host : Host) (child : ChildProcess) :
    (child.exitCode host).calls = host.waitCalls child.process := by
  rw [exitCode, Traced.calls_bind, Host.awaitEnd, Host.waitCalls]
  by_cases failed : host.wait.status = WaitAnswer.failedStatus
  · simp [failed]
  · simp [failed, Host.exitCodeOf]

theorem events_exitCode (host : Host) (child : ChildProcess) :
    (child.exitCode host).events = [] := by
  rw [exitCode, Traced.events_bind, Host.awaitEnd]
  by_cases failed : host.wait.status = WaitAnswer.failedStatus
  · simp [failed]
  · simp [failed, Host.exitCodeOf]

theorem errors_exitCode (host : Host) (child : ChildProcess) :
    (child.exitCode host).eventsAt .error = [] := by
  rw [Traced.eventsAt, events_exitCode, List.filter_nil]

/-! ## The release -/

/-- The calls of a release: what names nothing is left out. -/
def closeCalls (child : ChildProcess) : List Call :=
  ([child.thread, child.process].filter (!·.isInvalid)).map .closeHandle

theorem calls_closeReporting
    (host : Host) (child : ChildProcess) (handle : Handle) :
    (child.closeReporting host handle).calls =
      if handle.isInvalid then [] else [.closeHandle handle] := by
  rw [closeReporting, Traced.calls_bind, Host.calls_close]
  cases (host.close handle).value <;> simp

theorem errors_closeReporting
    (host : Host) (child : ChildProcess) (handle : Handle) :
    (child.closeReporting host handle).eventsAt .error = [] := by
  rw [closeReporting, Traced.eventsAt_bind, Host.errors_close]
  cases (host.close handle).value <;> rfl

/-- The handles are closed one after the other, even if closing one fails. -/
theorem calls_release (host : Host) (child : ChildProcess) :
    (child.release host).calls = child.closeCalls := by
  rw [release, Traced.calls_bind, calls_closeReporting,
    calls_closeReporting, closeCalls]
  cases thread : child.thread.isInvalid <;>
    cases process : child.process.isInvalid <;>
      simp [thread, process]

theorem errors_release (host : Host) (child : ChildProcess) :
    (child.release host).eventsAt .error = [] := by
  rw [release, Traced.eventsAt_bind, errors_closeReporting,
    errors_closeReporting, List.append_nil]

/-! ## The start -/

/-- The process that a host has told of. -/
def ofInformation (information : ProcessInformation) : ChildProcess :=
  ⟨information.process, information.thread, information.id⟩

/-- A text that cannot be handed over keeps the child from being created. -/
theorem start_of_handOver_error
    (host : Host) {application commandLine currentDirectory : WideString}
    {fault : Fault}
    (refused : handOver application commandLine currentDirectory =
      .error fault) :
    start host application commandLine currentDirectory =
      pure (.error fault) := by
  rw [start, refused]

/-- Strings that can be handed over are asked to be started, once. -/
theorem start_of_handOver_ok
    (host : Host) {application commandLine currentDirectory : WideString}
    {strings : WideString × WideString × WideString}
    (taken : handOver application commandLine currentDirectory =
      .ok strings) :
    (start host application commandLine currentDirectory).value =
        (host.creation.mapError Fault.system).map ofInformation ∧
      (start host application commandLine currentDirectory).calls =
        [.createProcess ⟨strings.1, strings.2.1, strings.2.2, false,
          Host.createNoWindow⟩] := by
  rw [start, taken]
  unfold Host.startProcess
  cases host.creation with
  | error error => exact ⟨rfl, rfl⟩
  | ok information => exact ⟨rfl, rfl⟩

theorem events_start
    (host : Host) (application commandLine currentDirectory : WideString) :
    (start host application commandLine currentDirectory).events = [] := by
  cases taken : handOver application commandLine currentDirectory with
  | error fault =>
      rw [start_of_handOver_error host taken, Traced.events_pure]
  | ok strings =>
      rw [start, taken]
      unfold Host.startProcess
      cases host.creation with
      | error error => rfl
      | ok information => rfl

theorem errors_start
    (host : Host) (application commandLine currentDirectory : WideString) :
    (start host application commandLine currentDirectory).eventsAt .error =
      [] := by
  rw [Traced.eventsAt, events_start, List.filter_nil]

end ChildProcess

end WindowedLauncher
