import WindowedLauncher.Proofs.LogRecord
import WindowedLauncher.Proofs.Resources

/-!
# Launching past the log

Some steps of a session launch the target, or derive the directory that it is
launched from.  Their events are told to the session where they are reported,
with any subscriber, filter and files that are there; but the session has no
say in what they come to.  What is seen of such a step in any session is what
is seen of the launcher without one (`answer_of_unlogged`).

So all that has to do with the log can be left out of a run without changing
the answers to the others of its steps (`answers_of_launches`).
-/

namespace WindowedLauncher.Logging

variable {library : Library}

namespace Step

/-- What a step that launches the target, or derives its directory, comes to
where there is no session. -/
def unlogged? : Step → Option (Traced Reply)
  | .deriveDirectory imagePath => some do
    return .directory (← InstallDirectory.ofImagePath imagePath)
  | .run host directory argv => some do
    return .ran (← Launcher.run host directory argv)
  | .launch host => some do
    return .launched (← Launcher.launch host)
  | _ => none

/-- A step that launches the target, or derives its directory. -/
def launches (step : Step) : Bool :=
  step.unlogged?.isSome

end Step

namespace Session

/-- A launching step does in a session what it does without one, and the
session is told of it. -/
theorem follows_perform
    {taken : Step} {traced : Traced Reply}
    (unlogged : taken.unlogged? = some traced) :
    Follows (perform taken : Logged library Reply) traced := by
  cases taken with
  | set setting value => cases unlogged
  | openLog => cases unlogged
  | prepare => cases unlogged
  | event severity message => cases unlogged
  | deriveDirectory imagePath =>
      cases unlogged
      exact (InstallDirectory.follows_ofImagePath _).bind fun _ => .pure _
  | run host directory argv =>
      cases unlogged
      exact (Launcher.follows_run host _ _).bind fun _ => .pure _
  | launch host =>
      cases unlogged
      exact (Launcher.follows_launch host).bind fun _ => .pure _

/-- Whatever session a launching step meets, it replies the same, makes the same
calls and reports the same events. -/
theorem answer_of_unlogged
    (session : Session library) {taken : Step} {traced : Traced Reply}
    (unlogged : taken.unlogged? = some traced) :
    Prod.fst <$> (step taken).run session = traced := by
  have follows : Follows (perform taken : Logged library Reply) traced :=
    follows_perform unlogged
  rw [run_step]
  apply Traced.ext
  · rw [Traced.value_map, Traced.value_map, follows.value]
  · rw [Traced.trace_map, Traced.trace_map, follows.trace]

/-- The steps of a run, each with its reply and all that is seen of it. -/
def answers (session : Session library) (taken : List Step) :
    List (Step × Traced Reply) :=
  taken.zip (session.steps taken).1

/-- The first step is answered, and then the rest in the session that it
leaves. -/
theorem answers_cons
    (session : Session library) (first : Step) (rest : List Step) :
    session.answers (first :: rest) =
      (first, Prod.fst <$> (step first).run session) ::
        (Visit.mk session first).next.answers rest :=
  rfl

/-- In a run the launching steps are answered as without a session. -/
theorem filter_answers (session : Session library) (taken : List Step) :
    (session.answers taken).filter (·.1.launches) =
      taken.filterMap fun step => step.unlogged?.map fun traced =>
        (step, traced) := by
  induction taken generalizing session with
  | nil => rfl
  | cons first rest ih =>
      rw [answers_cons, List.filterMap_cons]
      cases unlogged : first.unlogged? with
      | none =>
          have passed : ¬ first.launches = true := by
            simp [Step.launches, unlogged]
          rw [List.filter_cons, if_neg passed, ih]
          rfl
      | some traced =>
          have launches : first.launches = true := by
            simp [Step.launches, unlogged]
          rw [List.filter_cons, if_pos launches, ih,
            answer_of_unlogged session unlogged]
          rfl

/-- A run of launching steps answers to launching steps only. -/
theorem filter_answers_of_launches
    (session : Session library) (taken : List Step) :
    (session.answers (taken.filter Step.launches)).filter (·.1.launches) =
      session.answers (taken.filter Step.launches) := by
  rw [List.filter_eq_self]
  intro answer member
  have launching := (List.of_mem_zip member).1
  exact (List.mem_filter.mp launching).2

/-- Leaving out of a run all that sets up the log, steers it or is only written
to it changes no answer to the other steps: neither what they result in, nor
the calls that they make, nor the events that they report.  These are the
answers of a launcher that knows of no log. -/
theorem answers_of_launches
    (library : Library) (volume : Volume) (taken : List Step) :
    ((start volume : Session library).answers taken).filter (·.1.launches) =
        (start volume : Session library).answers
          (taken.filter Step.launches) ∧
      ((start volume : Session library).answers taken).filter
          (·.1.launches) =
        taken.filterMap fun step => step.unlogged?.map fun traced =>
          (step, traced) := by
  have unlogged := filter_answers (start volume : Session library) taken
  refine ⟨?_, unlogged⟩
  rw [← filter_answers_of_launches, unlogged, filter_answers,
    List.filterMap_filter]
  apply List.filterMap_congr
  intro step _
  cases step <;> rfl

/-- A run that sets up the log and launches the target. -/
def loggedLaunch : List Step :=
  [.set .logDirectory (some "/logs"), .openLog,
    .launch Launcher.startingHost]

/-- The launch is answered as it is by itself, although its events are told to
a subscriber that writes some of them to the log. -/
theorem answers_of_launches_loggedLaunch :
    ((start sampleVolume : Session .standard).answers loggedLaunch).filter
        (·.1.launches) =
      (start sampleVolume : Session .standard).answers
        [.launch Launcher.startingHost] ∧
    ((start sampleVolume : Session .standard).after
        loggedLaunch).volume.content? ["logs", "nortools-launcher.log"] =
      some ("older\n" ++
        "1970-01-01T00:00:00.000002Z  INFO nortools_launcher::launcher: " ++
        "started C:\\tools\\nortools.exe with process id 9\n" ++
        "1970-01-01T00:00:00.000003Z  INFO nortools_launcher::launcher: " ++
        "process 9 exited with code 3\n") := by
  constructor
  · exact (answers_of_launches .standard sampleVolume loggedLaunch).1
  · decide +kernel

end Session

end WindowedLauncher.Logging
