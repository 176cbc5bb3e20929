import Mathlib.Data.List.Basic
import WindowedLauncher.Proofs.Simulation

/-!
# Runs of a session

A run meets a session before each of its steps.  Its `visits` are these
sessions with the steps, in order, and what holds of a run is said about them:
which steps find a directory for the log, which open a log file in it, and
which set up the log without being broken off.

Setting up the log comes to one of five ends (`Session.opening_openLog`).  A
step first brings the session to where its events are told, and then tells them
(`Visit.next_eq`).  Only a step that opens a log file changes the files before
its events are told, and only the first that sets up the log installs a
subscriber (`Visit.changes`).
-/

namespace WindowedLauncher.Logging

variable {library : Library}

/-- The place of the log file in a directory. -/
def logPlace (directory : Place) : Place :=
  directory ++ [logName]

/-- A step that sets up the log, on its own or in preparing the process. -/
def Step.setsUpLog : Step → Bool
  | .openLog => true
  | .prepare => true
  | _ => false

/-- Two kinds of steps set up the log. -/
theorem Step.setsUpLog_iff (step : Step) :
    step.setsUpLog = true ↔ step = .openLog ∨ step = .prepare := by
  cases step <;> simp [setsUpLog]

/-- A directory is set for the log, and a log file can be opened in it. -/
structure Session.AdmitsLog (session : Session library) (directory : Place) :
    Prop where
  found : session.directory? = some directory
  short : ∀ path ∈ session.logDirectory,
    Volume.isTooLong (Volume.joined path logName) = false
  free : session.volume.isDirectory (logPlace directory) = false

/-- A step of a run, and the session that it meets. -/
structure Visit (library : Library) where
  session : Session library
  step : Step

namespace Visit

/-- What is seen of the step, the reply to it, and the session it leaves. -/
def outcome (visit : Visit library) : Traced (Reply × Session library) :=
  (Session.step visit.step).run visit.session

/-- What the step results in. -/
def reply (visit : Visit library) : Reply :=
  visit.outcome.value.1

/-- The session that the step leaves. -/
def next (visit : Visit library) : Session library :=
  visit.outcome.value.2

/-- The events that the step reports. -/
def emitted (visit : Visit library) : List Event :=
  visit.outcome.events

/-- The session in which the events of the step are told. -/
def begun (visit : Visit library) : Session library :=
  match visit.step with
  | .set setting value =>
      if Session.isUnsettable value then visit.session
      else visit.session.set value setting
  | .openLog => visit.session.openLog.2
  | .prepare => visit.session.installReporting.2.openLog.2
  | _ => visit.session

/-- The log is set up while an existing directory is set for it. -/
structure Finds (visit : Visit library) (directory : Place) : Prop where
  setsUp : visit.step.setsUpLog = true
  found : visit.session.directory? = some directory

/-- The log file of a directory is opened. -/
structure Opens (visit : Visit library) (directory : Place) : Prop where
  setsUp : visit.step.setsUpLog = true
  admits : visit.session.AdmitsLog directory

/-- The log is set up in a directory, and that is not broken off. -/
structure SetsUp (visit : Visit library) (directory : Place) : Prop
    extends visit.Finds directory where
  completed : visit.reply ≠ .aborted

end Visit

namespace Session

/-- The steps of a run, each with the session that it meets. -/
def visits (session : Session library) : List Step → List (Visit library)
  | [] => []
  | first :: rest =>
    ⟨session, first⟩ :: (Visit.mk session first).next.visits rest

/-- The session that a run leaves. -/
def after (session : Session library) (taken : List Step) : Session library :=
  (session.steps taken).2

@[simp]
theorem visits_nil (session : Session library) : session.visits [] = [] :=
  rfl

@[simp]
theorem visits_cons
    (session : Session library) (first : Step) (rest : List Step) :
    session.visits (first :: rest) =
      ⟨session, first⟩ :: (Visit.mk session first).next.visits rest :=
  rfl

@[simp]
theorem after_nil (session : Session library) : session.after [] = session :=
  rfl

@[simp]
theorem after_cons
    (session : Session library) (first : Step) (rest : List Step) :
    session.after (first :: rest) =
      (Visit.mk session first).next.after rest :=
  rfl

theorem after_append
    (session : Session library) (first second : List Step) :
    session.after (first ++ second) = (session.after first).after second := by
  induction first generalizing session with
  | nil => rfl
  | cons start rest ih => rw [List.cons_append, after_cons, ih, after_cons]

/-- The steps before one of a run are a run, which leaves the session that the
step meets, and the steps behind it are a run from the session that it
leaves. -/
theorem exists_of_visits_eq
    {session : Session library} {taken : List Step}
    {earlier later : List (Visit library)} {visit : Visit library}
    (split : session.visits taken = earlier ++ visit :: later) :
    ∃ first rest,
      taken = first ++ visit.step :: rest ∧
        earlier = session.visits first ∧
        visit.session = session.after first ∧
        later = visit.next.visits rest := by
  induction earlier generalizing session taken with
  | nil =>
      cases taken with
      | nil => cases split
      | cons start rest =>
          rw [visits_cons, List.nil_append, List.cons.injEq] at split
          rcases split with ⟨rfl, rfl⟩
          exact ⟨[], rest, rfl, rfl, rfl, rfl⟩
  | cons other earlier ih =>
      cases taken with
      | nil => cases split
      | cons start rest =>
          rw [visits_cons, List.cons_append, List.cons.injEq] at split
          rcases split with ⟨rfl, split⟩
          rcases ih split with ⟨first, behind, rfl, rfl, met, rfl⟩
          exact ⟨start :: first, behind, rfl, rfl, met, rfl⟩

/-! ## Telling events -/

/-- Telling an event changes no subscriber. -/
@[simp]
theorem subscriber_tell (session : Session library) (event : Event) :
    (session.tell event).subscriber = session.subscriber := by
  rw [tell, receive]
  split <;> split <;> (try split) <;> rfl

@[simp]
theorem subscriber_tellAll (session : Session library) (events : List Event) :
    (session.tellAll events).subscriber = session.subscriber := by
  induction events generalizing session with
  | nil => rfl
  | cons event rest ih => rw [tellAll_cons, ih, subscriber_tell]

/-! ## Setting up the log -/

variable {session : Session library} {directory : Place}

theorem openLog_of_not_found (nowhere : session.directory? = none) :
    session.openLog = (.unused, session) := by
  rw [openLog]
  cases session.logDirectory <;> simp [nowhere]

theorem exists_logDirectory (found : session.directory? = some directory) :
    ∃ path, session.logDirectory = some path ∧
      session.volume.directory? path = some directory := by
  simpa [directory?, Option.bind_eq_some_iff] using found

/-- A session with the log file of a directory opened. -/
def withLog (session : Session library) (directory : Place) :
    Session library :=
  { session with volume := session.volume.create (logPlace directory) }

/-- The log file is opened before the setting of the filter is read. -/
theorem openLog_of_severed
    (admits : session.AdmitsLog directory)
    (severed : library.filter? session.logFilter = none) :
    session.openLog = (.aborted, session.withLog directory) := by
  obtain ⟨path, set, -⟩ := exists_logDirectory admits.found
  have short := admits.short path set
  have free := admits.free
  rw [logPlace] at free
  simp [openLog, set, admits.found, short, free, severed, withLog, logPlace]

/-- Where the log has a place and its filter can be read, there is a subscriber
to install. -/
theorem openLog_of_read
    (admits : session.AdmitsLog directory) {filter : Event → Bool}
    (read : library.filter? session.logFilter = some filter) :
    session.openLog =
      (session.withLog directory).subscribe (logPlace directory) filter := by
  obtain ⟨path, set, -⟩ := exists_logDirectory admits.found
  have short := admits.short path set
  have free := admits.free
  rw [logPlace] at free
  simp [openLog, set, admits.found, short, free, read, withLog, logPlace]

/-- A directory in which no log file can be opened breaks the opening off. -/
theorem openLog_of_shut
    (found : session.directory? = some directory)
    (shut : ¬ session.AdmitsLog directory) :
    session.openLog = (.aborted, session) := by
  obtain ⟨path, set, -⟩ := exists_logDirectory found
  have blocked : (Volume.isTooLong (Volume.joined path logName) ||
      session.volume.isDirectory (directory ++ [logName])) = true := by
    by_contra clear
    rw [Bool.not_eq_true, Bool.or_eq_false_iff] at clear
    refine shut ⟨found, ?_, clear.2⟩
    intro other otherSet
    rw [set] at otherSet
    cases otherSet
    exact clear.1
  rw [openLog, set, found]
  exact if_pos blocked

/-- What setting up the log comes to, and the session that it leaves. -/
inductive Opening (session : Session library) :
    LogOpening × Session library → Prop where
  /-- There is no directory for the log. -/
  | unused (nowhere : session.directory? = none) :
      Opening session (.unused, session)
  /-- No log file can be opened in the directory. -/
  | shut
      {directory : Place} (found : session.directory? = some directory)
      (shut : ¬ session.AdmitsLog directory) :
      Opening session (.aborted, session)
  /-- The setting of the filter is not read to its end. -/
  | severed
      {directory : Place} (admits : session.AdmitsLog directory)
      (severed : library.filter? session.logFilter = none) :
      Opening session (.aborted, session.withLog directory)
  /-- A subscriber is there already. -/
  | refused
      {directory : Place} (admits : session.AdmitsLog directory)
      {filter : Event → Bool}
      (read : library.filter? session.logFilter = some filter)
      (present : session.subscriber.isSome = true) :
      Opening session (.refused, (session.withLog directory).describe)
  /-- The subscriber writes to the log file through the filter. -/
  | installed
      {directory : Place} (admits : session.AdmitsLog directory)
      {filter : Event → Bool}
      (read : library.filter? session.logFilter = some filter)
      (vacant : session.subscriber = none) :
      Opening session (.installed, { session.withLog directory with
        subscriber := some ⟨logPlace directory, filter⟩ })

/-- Setting up the log comes to one of five ends. -/
theorem opening_openLog (session : Session library) :
    session.Opening session.openLog := by
  cases found : session.directory? with
  | none =>
      rw [openLog_of_not_found found]
      exact .unused found
  | some directory =>
      by_cases admits : session.AdmitsLog directory
      · cases read : library.filter? session.logFilter with
        | none =>
            rw [openLog_of_severed admits read]
            exact .severed admits read
        | some filter =>
            have opened := openLog_of_read admits read
            rw [opened]
            cases present : session.subscriber with
            | none =>
                have installed : (session.withLog directory).subscribe
                    (logPlace directory) filter =
                      (.installed, { session.withLog directory with
                        subscriber := some ⟨logPlace directory, filter⟩ }) := by
                  rw [subscribe, withLog, present]
                rw [installed]
                exact .installed admits read present
            | some receiver =>
                have refused : (session.withLog directory).subscribe
                    (logPlace directory) filter =
                      (.refused, (session.withLog directory).describe) := by
                  rw [subscribe, withLog, present]
                rw [refused]
                exact .refused admits read (Option.isSome_of_eq_some present)
      · rw [openLog_of_shut found admits]
        exact .shut found admits

/-- Setting up the log does not look at what has been done with the reporting
of errors. -/
theorem openLog_installReporting (session : Session library) :
    session.installReporting.2.openLog.1 = session.openLog.1 ∧
      session.installReporting.2.openLog.2.volume =
        session.openLog.2.volume ∧
      session.installReporting.2.openLog.2.subscriber =
        session.openLog.2.subscriber := by
  cases found : session.directory? with
  | none =>
      rw [openLog_of_not_found found, openLog_of_not_found]
      · exact ⟨rfl, rfl, rfl⟩
      · exact found
  | some directory =>
      by_cases admits : session.AdmitsLog directory
      · have again : session.installReporting.2.AdmitsLog directory :=
          ⟨admits.found, admits.short, admits.free⟩
        cases read : library.filter? session.logFilter with
        | none =>
            rw [openLog_of_severed admits read,
              openLog_of_severed again read]
            exact ⟨rfl, rfl, rfl⟩
        | some filter =>
            rw [openLog_of_read admits read, openLog_of_read again read,
              subscribe, subscribe]
            cases present : session.subscriber <;>
              simp [withLog, installReporting, present, describe]
      · rw [openLog_of_shut found admits, openLog_of_shut]
        · exact ⟨rfl, rfl, rfl⟩
        · exact found
        · rintro ⟨_, short, free⟩
          exact admits ⟨found, short, free⟩

/-- Whatever setting up the log comes to, it tells no event. -/
theorem moment_openLog (session : Session library) :
    session.openLog.2.moment = session.moment := by
  have opening := session.opening_openLog
  generalize session.openLog = outcome at opening ⊢
  cases opening <;> rfl

/-! ## Performing a step -/

/-- Warnings are told where they are reported. -/
theorem follows_warn (words : String) (refusal : Option String) :
    Follows (warn words refusal : Logged library Unit)
      (warn words refusal) := by
  cases refusal with
  | none => exact .pure _
  | some reason => exact .report _ _ _

/-- The warnings of a preparation are the same with a session and without. -/
theorem follows_concludePreparing
    (outcome : LogOpening) (reporting : Option String) :
    Follows (concludePreparing library outcome reporting : Logged library _)
      (concludePreparing library outcome reporting) := by
  refine .ite (.pure _) ?_
  refine (follows_warn _ _).bind fun _ => ?_
  exact (follows_warn _ _).bind fun _ => .pure _

/-- A step is seen to do what it performs.  What it leaves has put a fault of
the reply into words. -/
theorem run_step (session : Session library) (taken : Step) :
    (step taken).run session =
      (fun left =>
        (left.1, if left.1.tellsOfFault then left.2.describe else left.2)) <$>
          (perform taken).run session := by
  rw [step, StateT.run_bind, map_eq_pure_bind]
  refine bind_congr ?_
  rintro ⟨reply, left⟩
  cases faulty : reply.tellsOfFault <;> simp

theorem openReply_eq_aborted_iff (outcome : LogOpening) :
    openReply library outcome = .aborted ↔ outcome = .aborted := by
  cases outcome <;> simp [openReply]

theorem value_concludePreparing_eq_aborted_iff
    (outcome : LogOpening) (reporting : Option String) :
    (concludePreparing library outcome reporting : Traced Reply).value =
        .aborted ↔
      outcome = .aborted := by
  rw [concludePreparing]
  split <;> simp [*]

end Session

namespace Visit

variable {visit : Visit library} {directory other : Place}

/-! ## What a step leaves -/

/-- Every step goes on from the session in which its events are told like a
traced computation. -/
theorem exists_follows (visit : Visit library) :
    ∃ (rest : Logged library Reply) (traced : Traced Reply),
      Follows rest traced ∧
        (Session.perform visit.step).run visit.session =
          rest.run visit.begun := by
  obtain ⟨session, step⟩ := visit
  cases step with
  | set setting value =>
      cases unsettable : Session.isUnsettable value with
      | true =>
          refine ⟨_, _, .pure .aborted, ?_⟩
          simp [Session.perform, begun, unsettable]
      | false =>
          refine ⟨_, _, .pure .done, ?_⟩
          simp [Session.perform, begun, unsettable]
  | openLog => exact ⟨_, _, .pure _, rfl⟩
  | prepare => exact ⟨_, _, Session.follows_concludePreparing _ _, rfl⟩
  | event severity message =>
      exact ⟨_, _, (Follows.report _ _ _).bind fun _ => .pure _, rfl⟩
  | deriveDirectory imagePath =>
      exact ⟨_, _, (InstallDirectory.follows_ofImagePath _).bind fun _ =>
        .pure _, rfl⟩
  | run host directory argv =>
      exact ⟨_, _, (Launcher.follows_run host _ _).bind fun _ => .pure _, rfl⟩
  | launch host =>
      exact ⟨_, _, (Launcher.follows_launch host).bind fun _ => .pure _, rfl⟩

/-- A step that goes on like a traced computation replies and reports as that
does, and its events are told. -/
theorem outcome_of_follows
    {rest : Logged library Reply} {traced : Traced Reply}
    (follows : Follows rest traced)
    (performed : (Session.perform visit.step).run visit.session =
      rest.run visit.begun) :
    visit.reply = traced.value ∧ visit.emitted = traced.events ∧
      visit.next =
        if traced.value.tellsOfFault then
          (visit.begun.tellAll traced.events).describe
        else visit.begun.tellAll traced.events := by
  have seen : visit.outcome = _ <$> rest.run visit.begun :=
    (Session.run_step visit.session visit.step).trans
      (congrArg _ performed)
  refine ⟨?_, ?_, ?_⟩
  · rw [reply, seen, Traced.value_map, follows.value]
  · rw [emitted, seen, Traced.events_map, Traced.events, follows.trace,
      Traced.events]
  · rw [next, seen, Traced.value_map, follows.value]

/-- A step leaves the session that has been told of its events, and that has
put a fault of the reply into words. -/
theorem next_eq (visit : Visit library) :
    visit.next =
      if visit.reply.tellsOfFault then
        (visit.begun.tellAll visit.emitted).describe
      else visit.begun.tellAll visit.emitted := by
  obtain ⟨rest, traced, follows, performed⟩ := visit.exists_follows
  obtain ⟨replied, reported, left⟩ := outcome_of_follows follows performed
  rw [left, replied, reported]

/-- A setting that is changed is all that changes. -/
theorem next_set
    (session : Session library) (setting : Setting) {value : Option String}
    (settable : Session.isUnsettable value = false) :
    next ⟨session, .set setting value⟩ = session.set value setting := by
  simp [next, outcome, Session.run_step, Session.perform, settable,
    Reply.tellsOfFault]

theorem reply_openLog (session : Session library) :
    reply ⟨session, .openLog⟩ = openReply library session.openLog.1 :=
  (outcome_of_follows (.pure _) rfl).1

/-- A preparation looks at the log, and at what has been done with the
reporting of errors before. -/
theorem outcome_prepare (session : Session library) :
    reply ⟨session, .prepare⟩ =
        (concludePreparing library session.openLog.1
          session.installReporting.1 : Traced Reply).value ∧
      emitted ⟨session, .prepare⟩ =
        (concludePreparing library session.openLog.1
          session.installReporting.1 : Traced Reply).events := by
  rw [← (Session.openLog_installReporting session).1]
  obtain ⟨replied, reported, -⟩ :=
    @outcome_of_follows _ ⟨session, .prepare⟩ _ _
      (Session.follows_concludePreparing
        session.installReporting.2.openLog.1 session.installReporting.1) rfl
  exact ⟨replied, reported⟩

/-- A changed setting is not looked at before the log is set up. -/
theorem begun_set
    (session : Session library) (setting : Setting) (value : Option String) :
    (begun ⟨session, .set setting value⟩).volume = session.volume ∧
      (begun ⟨session, .set setting value⟩).subscriber = session.subscriber ∧
      (begun ⟨session, .set setting value⟩).moment = session.moment ∧
      (begun ⟨session, .set setting value⟩).reporting =
        session.reporting := by
  cases unsettable : Session.isUnsettable value with
  | true => simp [begun, unsettable]
  | false => cases setting <;> simp [begun, unsettable, Session.set]

/-- Both steps that set up the log do to it what `openLog` does. -/
theorem begun_of_setsUpLog
    (visit : Visit library) (setsUp : visit.step.setsUpLog = true) :
    visit.begun.volume = visit.session.openLog.2.volume ∧
      visit.begun.subscriber = visit.session.openLog.2.subscriber ∧
      (visit.reply = .aborted ↔ visit.session.openLog.1 = .aborted) := by
  obtain ⟨session, step⟩ := visit
  rcases step.setsUpLog_iff.mp setsUp with rfl | rfl
  · refine ⟨rfl, rfl, ?_⟩
    rw [reply_openLog]
    exact Session.openReply_eq_aborted_iff _
  · refine ⟨(Session.openLog_installReporting session).2.1,
      (Session.openLog_installReporting session).2.2, ?_⟩
    rw [(outcome_prepare session).1]
    exact Session.value_concludePreparing_eq_aborted_iff _ _

/-- The other steps tell their events to the files and the subscriber that they
meet. -/
theorem begun_of_not_setsUpLog
    (visit : Visit library) (other : visit.step.setsUpLog = false) :
    visit.begun.volume = visit.session.volume ∧
      visit.begun.subscriber = visit.session.subscriber := by
  obtain ⟨session, step⟩ := visit
  cases step with
  | openLog => cases other
  | prepare => cases other
  | set setting value =>
      obtain ⟨volume, subscriber, -⟩ := begun_set session setting value
      exact ⟨volume, subscriber⟩
  | event severity message => exact ⟨rfl, rfl⟩
  | deriveDirectory imagePath => exact ⟨rfl, rfl⟩
  | run host directory argv => exact ⟨rfl, rfl⟩
  | launch host => exact ⟨rfl, rfl⟩

/-- No event is told before a step tells its own. -/
theorem moment_begun (visit : Visit library) :
    visit.begun.moment = visit.session.moment := by
  obtain ⟨session, step⟩ := visit
  cases step with
  | openLog => exact Session.moment_openLog session
  | prepare => exact Session.moment_openLog _
  | set setting value => exact (begun_set session setting value).2.2.1
  | event severity message => rfl
  | deriveDirectory imagePath => rfl
  | run host directory argv => rfl
  | launch host => rfl

/-! ## Changes of the files and of the subscriber -/

theorem Finds.eq (finds : visit.Finds directory) (again : visit.Finds other) :
    directory = other := by
  have same := finds.found.symm.trans again.found
  exact Option.some.inj same

theorem Opens.finds (opens : visit.Opens directory) : visit.Finds directory :=
  ⟨opens.setsUp, opens.admits.found⟩

/-- What sets up the log has opened its file. -/
theorem SetsUp.opens (setsUp : visit.SetsUp directory) :
    visit.Opens directory := by
  refine ⟨setsUp.setsUp, ?_⟩
  by_contra shut
  refine setsUp.completed ?_
  rw [(visit.begun_of_setsUpLog setsUp.setsUp).2.2,
    Session.openLog_of_shut setsUp.found shut]

/-- What a step does to the files and to the subscriber before its events are
told: nothing, or it opens a log file, or it also installs a subscriber that
writes to that file through the filter that is set. -/
inductive Change (visit : Visit library) :
    Volume → Option Subscriber → Prop where
  | nothing
      (unopened : ∀ directory, ¬ visit.Opens directory) :
      Change visit visit.session.volume visit.session.subscriber
  | opened
      {directory : Place} (opens : visit.Opens directory)
      (uninstalled : visit.session.subscriber = none →
        ∀ directory, ¬ visit.SetsUp directory) :
      Change visit (visit.session.volume.create (logPlace directory))
        visit.session.subscriber
  | installed
      {directory : Place} (setsUp : visit.SetsUp directory)
      (vacant : visit.session.subscriber = none)
      {admits : Event → Bool}
      (read : library.filter? visit.session.logFilter = some admits) :
      Change visit (visit.session.volume.create (logPlace directory))
        (some ⟨logPlace directory, admits⟩)

/-- What a step changes before its events are told. -/
theorem changes (visit : Visit library) :
    visit.Change visit.begun.volume visit.begun.subscriber := by
  cases setsUp : visit.step.setsUpLog with
  | false =>
      obtain ⟨volume, subscriber⟩ := visit.begun_of_not_setsUpLog setsUp
      rw [volume, subscriber]
      refine .nothing ?_
      intro directory opens
      rw [opens.setsUp] at setsUp
      cases setsUp
  | true =>
      obtain ⟨volume, subscriber, aborted⟩ := visit.begun_of_setsUpLog setsUp
      have opening := visit.session.opening_openLog
      rw [volume, subscriber]
      generalize visit.session.openLog = outcome at aborted opening ⊢
      cases opening with
      | unused nowhere =>
          refine .nothing ?_
          intro directory opens
          rw [opens.admits.found] at nowhere
          cases nowhere
      | @shut directory found shut =>
          refine .nothing ?_
          intro other opens
          cases opens.finds.eq ⟨setsUp, found⟩
          exact shut opens.admits
      | severed admits severed =>
          refine .opened ⟨setsUp, admits⟩ ?_
          intro _ directory completed
          exact completed.completed (aborted.mpr rfl)
      | refused admits read present =>
          refine .opened ⟨setsUp, admits⟩ ?_
          intro vacant
          rw [vacant] at present
          cases present
      | installed admits read vacant =>
          have completed : visit.reply ≠ .aborted := by
            rw [ne_eq, aborted]
            nofun
          exact .installed ⟨⟨setsUp, admits.found⟩, completed⟩ vacant read

/-- The files are left alone, or the log file of a directory is opened. -/
theorem volume_begun (visit : Visit library) :
    (visit.begun.volume = visit.session.volume ∧
        ∀ directory, ¬ visit.Opens directory) ∨
      ∃ directory, visit.Opens directory ∧
        visit.begun.volume =
          visit.session.volume.create (logPlace directory) := by
  have changed := visit.changes
  generalize visit.begun.volume = volume,
    visit.begun.subscriber = subscriber at changed ⊢
  cases changed with
  | nothing unopened => exact .inl ⟨rfl, unopened⟩
  | opened opens uninstalled => exact .inr ⟨_, opens, rfl⟩
  | installed setsUp vacant read => exact .inr ⟨_, setsUp.opens, rfl⟩

end Visit

end WindowedLauncher.Logging
