import WindowedLauncher.Proofs.Endings

/-!
# What a launch tells

The exit status of a launch, the dialog that the user sees and the error that
is reported come from three places.  They agree on every host
(`launch_outcome`): a launch either passes on the exit code of its child and
is silent, or has the status of a failure and reports one error; and the user
is shown a dialog, last of all, just when the arguments were there and no
child was created.
-/

namespace WindowedLauncher

/-- The dialogs that the user is shown. -/
def Traced.dialogs {α : Type} (traced : Traced α) : List Call :=
  traced.calls.filter (·.concern = .user)

namespace Launcher

/-! ## What an attempt comes to -/

/-- Everything goes well, from the arguments to the exit code. -/
structure Completes (host : Host) (code : UInt32) : Prop where
  arguments : host.GivesArguments
  directory : 0 ∉ host.directory.path
  created : ∃ information, host.creation = .ok information
  waited : host.wait.status ≠ WaitAnswer.failedStatus
  exitCode : host.exitCode = .ok code

section Endings

variable {host : Host} {outcome : Except LaunchFailure UInt32}
  {calls : List Call}

theorem not_givesArguments_of_error
    {reason : Fault} (unread : host.ownArguments.value = .error reason) :
    ¬ host.GivesArguments := by
  rw [host.givesArguments_iff, unread]
  rintro ⟨argv, read⟩
  cases read

theorem givesArguments_of_ok
    {argv : List WideString} (read : host.ownArguments.value = .ok argv) :
    host.GivesArguments :=
  host.givesArguments_iff.mpr ⟨argv, read⟩

theorem Ending.eq_ok_iff
    (ends : Ending host outcome calls) (code : UInt32) :
    outcome = .ok code ↔ Completes host code := by
  cases ends with
  | withoutArguments unread =>
      refine iff_of_false (by simp) ?_
      intro completes
      exact not_givesArguments_of_error unread completes.arguments
  | withNul read nul =>
      refine iff_of_false (by simp) ?_
      intro completes
      exact completes.directory nul
  | withoutChild read noNul refused =>
      refine iff_of_false (by simp) ?_
      intro completes
      rcases completes.created with ⟨information, created⟩
      rw [refused] at created
      cases created
  | withChild read noNul created =>
      -- Only the wait and the exit code are left to go wrong.
      have waited := host.waitOutcome_eq_ok_iff code
      constructor
      · intro passedOn
        cases brought : host.waitOutcome with
        | error fault =>
            rw [brought] at passedOn
            cases passedOn
        | ok stored =>
            rw [brought] at passedOn waited
            cases passedOn
            rcases waited.mp rfl with ⟨noFailure, asked⟩
            exact ⟨givesArguments_of_ok read, noNul, ⟨_, created⟩,
              noFailure, asked⟩
      · intro completes
        rw [waited.mpr ⟨completes.waited, completes.exitCode⟩]
        rfl

/-- The system is asked for a child unless a string keeps it from that. -/
theorem Ending.asks_iff (ends : Ending host outcome calls) :
    (∃ request, .createProcess request ∈ calls) ↔
      host.GivesArguments ∧ 0 ∉ host.directory.path := by
  cases ends with
  | withoutArguments unread =>
      refine iff_of_false ?_ ?_
      · exact not_exists.mpr host.createProcess_not_mem_argumentCalls
      · rintro ⟨given, -⟩
        exact not_givesArguments_of_error unread given
  | withNul read nul =>
      refine iff_of_false ?_ ?_
      · exact not_exists.mpr host.createProcess_not_mem_argumentCalls
      · rintro ⟨-, noNul⟩
        exact noNul nul
  | withoutChild read noNul refused =>
      refine iff_of_true ?_ ⟨givesArguments_of_ok read, noNul⟩
      exact ⟨_, List.mem_append_right _ (List.mem_singleton_self _)⟩
  | withChild read noNul created =>
      refine iff_of_true ?_ ⟨givesArguments_of_ok read, noNul⟩
      exact ⟨_, List.mem_append_right _ List.mem_cons_self⟩

/-- The user is told of a child that could not be created, and only of it. -/
theorem Ending.shown_iff (ends : Ending host outcome calls) :
    (∃ failure, outcome = .error failure ∧ failure.isShownToUser = true) ↔
      host.GivesArguments ∧
        (0 ∈ host.directory.path ∨
          ∃ error, host.creation = .error error) := by
  cases ends with
  | withoutArguments unread =>
      refine iff_of_false ?_ ?_
      · rintro ⟨failure, told, shown⟩
        cases told
        cases shown
      · rintro ⟨given, -⟩
        exact not_givesArguments_of_error unread given
  | withNul read nul =>
      refine iff_of_true ?_ ⟨givesArguments_of_ok read, .inl nul⟩
      exact ⟨_, rfl, rfl⟩
  | withoutChild read noNul refused =>
      refine iff_of_true ?_ ⟨givesArguments_of_ok read, .inr ⟨_, refused⟩⟩
      exact ⟨_, rfl, rfl⟩
  | withChild read noNul created =>
      refine iff_of_false ?_ ?_
      · rintro ⟨failure, told, shown⟩
        cases brought : host.waitOutcome <;> rw [brought] at told
        · cases told
          cases shown
        · cases told
      · rintro ⟨-, nul | ⟨error, refused⟩⟩
        · exact noNul nul
        · rw [created] at refused
          cases refused

end Endings

variable (host : Host)

theorem value_attempt_eq_ok_iff (code : UInt32) :
    (attempt host).value = .ok code ↔ Completes host code :=
  (attempt_ends host).eq_ok_iff code

/-- A child is started if the arguments can be read, the directory holds no
NUL, and the host creates one. -/
theorem startsChild_iff :
    StartsChild host ↔
      (host.GivesArguments ∧ 0 ∉ host.directory.path) ∧
        ∃ information, host.creation = .ok information := by
  rw [StartsChild, ← (attempt_ends host).asks_iff]
  refine and_congr_left' (exists_congr ?_)
  intro request
  exact mem_calls_launch_iff host (by simp [Call.concern])

/-- Whether a child is created is up to the strings and to the system. -/
theorem not_startsChild_iff (given : host.GivesArguments) :
    ¬ StartsChild host ↔
      0 ∈ host.directory.path ∨ ∃ error, host.creation = .error error := by
  rw [startsChild_iff]
  cases host.creation <;> simp [given]

/-! ## What a launch makes of it -/

/-- Nothing is shown before an attempt is over. -/
theorem dialogs_launch :
    (launch host).dialogs = (conclude (attempt host).value).calls := by
  have before : (attempt host).dialogs = [] := by
    rw [Traced.dialogs, List.filter_eq_nil_iff]
    intro call member
    simpa using (attempt_ends host).concern_ne_user call member
  rw [Traced.dialogs, launch_eq, Traced.calls_bind, List.filter_append,
    ← Traced.dialogs, before, List.nil_append, List.filter_eq_self]
  intro call member
  simpa using concern_of_mem_conclude member

theorem errors_launch :
    (launch host).eventsAt .error =
      (conclude (attempt host).value).eventsAt .error := by
  rw [launch_eq, Traced.eventsAt_bind, errors_attempt, List.nil_append]

theorem value_launch :
    (launch host).value = (conclude (attempt host).value).value := by
  rw [launch_eq, Traced.value_bind]

theorem length_dialogs_launch_le : (launch host).dialogs.length ≤ 1 := by
  rw [dialogs_launch]
  cases (attempt host).value with
  | ok code => exact Nat.zero_le 1
  | error failure =>
      rw [calls_conclude_error]
      split <;> simp

/-- The user is told of the failures that are theirs to see. -/
theorem dialogs_launch_ne_nil_iff :
    (launch host).dialogs ≠ [] ↔
      ∃ failure, (attempt host).value = .error failure ∧
        failure.isShownToUser = true := by
  rw [dialogs_launch]
  cases (attempt host).value with
  | ok code => simp [conclude_ok]
  | error failure => simp [calls_conclude_error]

/-- Nothing is done once a dialog has been dismissed. -/
theorem getLast?_trace_launch
    {dialog : Call} (shown : dialog ∈ (launch host).dialogs) :
    (launch host).trace.getLast? = some (.call dialog) := by
  rw [dialogs_launch] at shown
  rw [launch_eq, Traced.trace_bind]
  cases outcome : (attempt host).value with
  | ok code =>
      rw [outcome] at shown
      exact absurd shown List.not_mem_nil
  | error failure =>
      rw [outcome, calls_conclude_error] at shown
      split at shown
      · next isShown =>
          rw [List.mem_singleton.mp shown, conclude_error, if_pos isShown,
            List.getLast?_append]
          rfl
      · exact absurd shown List.not_mem_nil

/-- A launch is silent just when its attempt succeeds. -/
theorem errors_launch_eq_nil_iff :
    (launch host).eventsAt .error = [] ↔
      ∃ code, (attempt host).value = .ok code := by
  rw [errors_launch]
  cases (attempt host).value with
  | ok code => simp [conclude_ok]
  | error failure => simp [errors_conclude_error]

/-- A launch passes on the status of its child just where it completes. -/
theorem passes_on_iff (code : UInt32) :
    (host.exitCode = .ok code ∧ (launch host).value = code ∧
        (launch host).dialogs = [] ∧ (launch host).eventsAt .error = []) ↔
      Completes host code := by
  constructor
  · rintro ⟨-, status, -, silent⟩
    rcases (errors_launch_eq_nil_iff host).mp silent with ⟨brought, outcome⟩
    rw [value_launch, outcome] at status
    cases status
    exact (value_attempt_eq_ok_iff host brought).mp outcome
  · intro completes
    have outcome := (value_attempt_eq_ok_iff host code).mpr completes
    rw [value_launch, dialogs_launch, errors_launch, outcome]
    exact ⟨completes.exitCode, rfl, rfl, rfl⟩

/-- A launch that does not complete ends in a failure, and reports one error. -/
theorem launch_of_not_completes
    (fails : ∀ code, ¬ Completes host code) :
    (launch host).value = 1 ∧
      ((launch host).eventsAt .error).length = 1 := by
  rw [value_launch, errors_launch]
  cases outcome : (attempt host).value with
  | ok code =>
      have completes := (value_attempt_eq_ok_iff host code).mp outcome
      exact absurd completes (fails code)
  | error failure =>
      rw [errors_conclude_error, conclude_error]
      exact ⟨rfl, rfl⟩

/-- The user is told where there are arguments but no child. -/
theorem dialogs_launch_ne_nil_iff_not_startsChild :
    (launch host).dialogs ≠ [] ↔
      host.GivesArguments ∧ ¬ StartsChild host := by
  rw [dialogs_launch_ne_nil_iff, (attempt_ends host).shown_iff]
  refine and_congr_right ?_
  intro given
  exact (not_startsChild_iff host given).symm

/-- A child is kept from being created by a NUL in a string that is handed
over, or by the system. -/
theorem not_startsChild_iff_of_read
    {argv : List WideString} (read : host.ownArguments.value = .ok argv) :
    ¬ StartsChild host ↔
      (∃ string ∈ requestStrings host.directory argv, 0 ∈ string) ∨
        ∃ error, host.creation = .error error := by
  have plain := Host.nul_not_mem_of_value_ownArguments read
  rw [not_startsChild_iff host (givesArguments_of_ok read),
    nul_mem_request_iff host.directory plain]

/-- Status, dialog and reported error of a launch agree, whatever the host
answers. -/
theorem launch_outcome (host : Host) :
    (∀ code,
      (host.exitCode = .ok code ∧ (launch host).value = code ∧
          (launch host).dialogs = [] ∧
          (launch host).eventsAt .error = []) ↔
        Completes host code) ∧
    ((∀ code, ¬ Completes host code) →
      (launch host).value = 1 ∧
        ((launch host).eventsAt .error).length = 1) ∧
    (launch host).dialogs.length ≤ 1 ∧
    ((launch host).dialogs ≠ [] ↔
      host.GivesArguments ∧ ¬ StartsChild host) ∧
    (∀ argv, host.ownArguments.value = .ok argv →
      (¬ StartsChild host ↔
        (∃ string ∈ requestStrings host.directory argv, 0 ∈ string) ∨
          ∃ error, host.creation = .error error)) ∧
    (∀ dialog ∈ (launch host).dialogs,
      (launch host).trace.getLast? = some (.call dialog)) := by
  refine ⟨passes_on_iff host, launch_of_not_completes host,
    length_dialogs_launch_le host,
    dialogs_launch_ne_nil_iff_not_startsChild host, ?_, ?_⟩
  · intro argv read
    exact not_startsChild_iff_of_read host read
  · intro dialog shown
    exact getLast?_trace_launch host shown

end Launcher

end WindowedLauncher
