import Mathlib.Data.List.Basic
import WindowedLauncher.Proofs.Outcome

/-!
# What a launch gives back

The array of the arguments is freed and the handles of the child are closed on
every path (`launch_resources`).  All of it is read off the shape that the
calls of a launch have (`calls_launch_cases`): those for the arguments come
first, then either a dialog at most, or the request for a child and what
follows from its answer.
-/

namespace WindowedLauncher

namespace Host

variable {host : Host}

theorem count_freeArgv_argumentCalls
    {array : ArgumentArray} (given : host.arguments = .ok array) :
    host.argumentCalls.count .freeArgv = 1 := by
  rw [argumentCalls, given, List.count_append]
  rfl

theorem freeArgv_not_mem_argumentCalls
    {number : Int32} (refused : host.arguments = .error number) :
    .freeArgv ∉ host.argumentCalls := by
  rw [argumentCalls, refused]
  simp

/-- Arguments that are there have been read from an array that is freed. -/
theorem GivesArguments.freeArgv_mem
    (given : host.GivesArguments) : .freeArgv ∈ host.argumentCalls := by
  rcases given with ⟨array, given, -⟩
  rw [← List.count_pos_iff, count_freeArgv_argumentCalls given]
  exact Nat.one_pos

end Host

namespace Launcher

open ChildProcess

variable (host : Host)

/-! ## The shape of the calls -/

/-- What follows the request for a child. -/
def callsAfterRequest : List Call :=
  match host.creation with
  | .error _ => [failureDialog]
  | .ok information =>
      host.waitCalls information.process ++
        closeCalls (.ofInformation information)

theorem callsAfterRequest_of_error
    {host : Host} {error : SystemError}
    (refused : host.creation = .error error) :
    callsAfterRequest host = [failureDialog] := by
  rw [callsAfterRequest, refused]

theorem callsAfterRequest_of_ok
    {host : Host} {information : ProcessInformation}
    (created : host.creation = .ok information) :
    callsAfterRequest host =
      host.waitCalls information.process ++
        closeCalls (.ofInformation information) := by
  rw [callsAfterRequest, created]

theorem concern_of_mem_callsAfterRequest
    {host : Host} {call : Call} (member : call ∈ callsAfterRequest host) :
    call.concern = .child ∨ call.concern = .user := by
  cases creation : host.creation with
  | error error =>
      rw [callsAfterRequest_of_error creation] at member
      rw [List.mem_singleton.mp member]
      exact .inr rfl
  | ok information =>
      rw [callsAfterRequest_of_ok creation, List.mem_append] at member
      rcases member with waiting | closing
      · exact .inl (concern_of_mem_waitCalls waiting)
      · exact .inl (concern_of_mem_closeCalls closing)

/-- A failure after the child was created is not shown. -/
theorem calls_conclude_waitOutcome :
    (conclude (host.waitOutcome.mapError .exitCode)).calls = [] := by
  cases host.waitOutcome <;> rfl

/-- Without a request for a child, the calls for the arguments are followed by
a dialog at most. -/
theorem calls_launch_cases :
    (∃ shown, (launch host).calls = host.argumentCalls ++ shown ∧
        ∀ call ∈ shown, call.concern = .user) ∨
      host.GivesArguments ∧ ∃ request,
        (launch host).calls =
          host.argumentCalls ++
            .createProcess request :: callsAfterRequest host := by
  -- The calls of the attempt, and the dialog that may follow them.
  have ends := attempt_ends host
  rw [launch_eq, Traced.calls_bind]
  generalize (attempt host).value = outcome,
    (attempt host).calls = calls at ends ⊢
  cases ends with
  | withoutArguments unread =>
      refine .inl ⟨_, rfl, ?_⟩
      intro call
      exact concern_of_mem_conclude
  | withNul read nul =>
      refine .inl ⟨_, rfl, ?_⟩
      intro call
      exact concern_of_mem_conclude
  | withoutChild read noNul refused =>
      refine .inr ⟨host.givesArguments_iff.mpr ⟨_, read⟩, ?_⟩
      rw [callsAfterRequest_of_error refused, List.append_assoc]
      exact ⟨_, rfl⟩
  | withChild read noNul created =>
      refine .inr ⟨host.givesArguments_iff.mpr ⟨_, read⟩, ?_⟩
      rw [callsAfterRequest_of_ok created, calls_conclude_waitOutcome,
        List.append_nil]
      exact ⟨_, rfl⟩

/-! ## The argument array -/

/-- A launch is done with its arguments before it turns to anything else. -/
theorem exists_calls_launch_eq :
    ∃ rest, (launch host).calls = host.argumentCalls ++ rest ∧
      ∀ call ∈ rest, call.concern ≠ .arguments := by
  rcases calls_launch_cases host with
    ⟨shown, calls, users⟩ | ⟨-, request, calls⟩
  · refine ⟨shown, calls, ?_⟩
    intro call member
    rw [users call member]
    decide
  · refine ⟨_, calls, ?_⟩
    rw [List.forall_mem_cons]
    refine ⟨by simp [Call.concern], ?_⟩
    intro call member
    rcases concern_of_mem_callsAfterRequest member with child | user
    · rw [child]
      decide
    · rw [user]
      decide

/-- The array is not freed again after the calls for the arguments. -/
theorem count_freeArgv_launch :
    (launch host).calls.count Call.freeArgv =
      host.argumentCalls.count .freeArgv := by
  rcases exists_calls_launch_eq host with ⟨rest, calls, others⟩
  have notLater : .freeArgv ∉ rest := by
    intro freed
    exact others .freeArgv freed rfl
  rw [calls, List.count_append, List.count_eq_zero_of_not_mem notLater,
    Nat.add_zero]

/-- A launch frees the array that it was given, once. -/
theorem count_freeArgv_launch_of_ok
    {array : ArgumentArray} (given : host.arguments = .ok array) :
    (launch host).calls.count Call.freeArgv = 1 := by
  rw [count_freeArgv_launch, Host.count_freeArgv_argumentCalls given]

theorem freeArgv_not_mem_calls_launch
    {number : Int32} (refused : host.arguments = .error number) :
    .freeArgv ∉ (launch host).calls := by
  rw [← List.count_eq_zero, count_freeArgv_launch, List.count_eq_zero]
  exact Host.freeArgv_not_mem_argumentCalls refused

/-! ## The child -/

variable {host}

/-- A child is asked for once, after the calls for the arguments. -/
theorem eq_of_calls_launch_eq
    {before after : List Call} {request : ProcessRequest}
    (asked : (launch host).calls =
      before ++ .createProcess request :: after) :
    host.GivesArguments ∧ before = host.argumentCalls ∧
      after = callsAfterRequest host := by
  have notBefore := host.createProcess_not_mem_argumentCalls request
  have notAfter : .createProcess request ∉ callsAfterRequest host :=
    mt concern_of_mem_callsAfterRequest (by simp [Call.concern])
  rcases calls_launch_cases host with
    ⟨shown, calls, users⟩ | ⟨given, asks, calls⟩
  · have member : .createProcess request ∈ host.argumentCalls ++ shown := by
      rw [← calls, asked]
      exact List.mem_append_right _ List.mem_cons_self
    rcases List.mem_append.mp member with early | late
    · exact absurd early notBefore
    · exact absurd (users _ late) (by simp [Call.concern])
  · rw [calls, List.append_cons_inj_of_notMem notBefore notAfter] at asked
    rcases asked with ⟨rfl, -, rfl⟩
    exact ⟨given, rfl, rfl⟩

/-- The array is freed before a child is asked for. -/
theorem freeArgv_mem_of_calls_launch_eq
    {before after : List Call} {request : ProcessRequest}
    (asked : (launch host).calls =
      before ++ .createProcess request :: after) :
    .freeArgv ∈ before := by
  rcases eq_of_calls_launch_eq asked with ⟨given, rfl, -⟩
  exact given.freeArgv_mem

theorem concern_ne_child_of_mem_argumentCalls
    {call : Call} (member : call ∈ host.argumentCalls) :
    call.concern ≠ .child := by
  rw [Host.concern_of_mem_argumentCalls member]
  decide

/-- Without a child no call is about one. -/
theorem concern_ne_child_of_not_startsChild
    (unstarted : ¬ StartsChild host) :
    ∀ call ∈ (launch host).calls, call.concern ≠ .child := by
  rcases calls_launch_cases host with
    ⟨shown, calls, users⟩ | ⟨-, request, calls⟩
  · rw [calls, List.forall_mem_append]
    refine ⟨fun _ => concern_ne_child_of_mem_argumentCalls, ?_⟩
    intro call member
    rw [users call member]
    decide
  · cases creation : host.creation with
    | error error =>
        rw [calls, callsAfterRequest_of_error creation,
          List.forall_mem_append, List.forall_mem_cons,
          List.forall_mem_singleton]
        exact ⟨fun _ => concern_ne_child_of_mem_argumentCalls,
          by simp [Call.concern], by decide⟩
    | ok information =>
        have asked : .createProcess request ∈ (launch host).calls := by
          rw [calls]
          exact List.mem_append_right _ List.mem_cons_self
        exact absurd ⟨⟨request, asked⟩, information, creation⟩ unstarted

/-- All that is done about a child is done after it was created. -/
theorem calls_launch_of_startsChild (started : StartsChild host) :
    ∃ information before request,
      host.creation = .ok information ∧
      (∀ call ∈ before, call.concern ≠ .child) ∧
      (launch host).calls =
        before ++ .createProcess request ::
          (host.waitCalls information.process ++
            closeCalls (.ofInformation information)) := by
  rcases started with ⟨⟨request, asked⟩, information, created⟩
  rcases List.append_of_mem asked with ⟨before, after, calls⟩
  rcases eq_of_calls_launch_eq calls with ⟨-, rfl, rfl⟩
  rw [callsAfterRequest_of_ok created] at calls
  exact ⟨information, host.argumentCalls, request, created,
    fun _ => concern_ne_child_of_mem_argumentCalls, calls⟩

/-- The array of the arguments is freed once, before a child is asked for, and
never if there is none.  A child is started just when the arguments are there,
the directory holds no NUL and the system creates the process.  It is waited
for, asked for its exit code if the wait has not failed, and then given up,
whatever the host answers; without a child no such call is made. -/
theorem launch_resources (host : Host) :
    (∀ array, host.arguments = .ok array →
      (launch host).calls.count Call.freeArgv = 1) ∧
    (∀ number, host.arguments = .error number →
      .freeArgv ∉ (launch host).calls) ∧
    (∀ before request after,
      (launch host).calls = before ++ .createProcess request :: after →
        .freeArgv ∈ before) ∧
    (StartsChild host ↔
      host.GivesArguments ∧ 0 ∉ host.directory.path ∧
        ∃ information, host.creation = .ok information) ∧
    (¬ StartsChild host →
      ∀ call ∈ (launch host).calls, call.concern ≠ .child) ∧
    (StartsChild host →
      ∃ information before request,
        host.creation = .ok information ∧
        (∀ call ∈ before, call.concern ≠ .child) ∧
        (launch host).calls =
          before ++ .createProcess request ::
            (host.waitCalls information.process ++
              closeCalls (.ofInformation information))) := by
  refine ⟨?_, ?_, ?_, ?_, concern_ne_child_of_not_startsChild,
    calls_launch_of_startsChild⟩
  · intro array given
    exact count_freeArgv_launch_of_ok host given
  · intro number refused
    exact freeArgv_not_mem_calls_launch host refused
  · intro before request after asked
    exact freeArgv_mem_of_calls_launch_eq asked
  · rw [startsChild_iff, and_assoc]

/-- A host that gives two arguments and starts a child. -/
def startingHost : Host where
  imagePath := .ok (WideString.ofString "C:\\tools\\nortoolsw.exe")
  commandLine := []
  arguments := .ok ⟨[WideString.ofString "w", WideString.ofString "a b"], 2⟩
  creation := .ok ⟨7, 8, 9⟩
  wait := ⟨0, 0⟩
  exitCode := .ok 3
  closeFailures := []

/-- A child that is started is waited for, asked for its status and closed. -/
theorem launch_resources_startingHost :
    StartsChild startingHost ∧
      ∃ before request,
        .freeArgv ∈ before ∧
        (launch startingHost).calls =
          before ++ .createProcess request ::
            [.waitForSingleObject 7 Host.infinite, .getExitCodeProcess 7,
              .closeHandle 8, .closeHandle 7] := by
  obtain ⟨-, -, freed, starts, -, created⟩ := launch_resources startingHost
  have started : StartsChild startingHost :=
    starts.mpr ⟨⟨_, rfl, by decide⟩, by decide, ⟨_, rfl⟩⟩
  rcases created started with ⟨information, before, request, ok, -, calls⟩
  cases ok
  exact ⟨started, before, request, freed _ _ _ calls, calls⟩

end Launcher

end WindowedLauncher
