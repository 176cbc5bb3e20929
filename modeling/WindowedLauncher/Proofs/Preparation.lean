import WindowedLauncher.Proofs.LogRecord

/-!
# Preparing a process more than once

Two things can be installed only once in a process: the subscriber of its log,
and the reporting of errors.  A step that sets up the log is refused where a
subscriber is there already, and hands out the guard of the log where none is;
a step that prepares the process goes on after either refusal, and warns of
both (`preparations`).

Error reporting is also kept from being installed by an error that has been
described before, so the first preparation of a process can warn of it too
(`not_preparations_of_prepared`).
-/

namespace WindowedLauncher.Logging

variable {library : Library}

/-- Whether a reply hands out the guard of the log. -/
def Reply.guard : Reply → Bool
  | .prepared guard => guard
  | .opened (.ok guard) => guard
  | _ => false

/-- Whether a reply brings an error to the one who took the step. -/
def Reply.isError : Reply → Bool
  | .opened (.error _) => true
  | .ran (.error _) => true
  | _ => false

namespace Visit

/-- What comes of setting up the log in this step. -/
def opening (visit : Visit library) : LogOpening :=
  visit.session.openLog.1

/-- Whether the step hands out the guard of the log. -/
def guard (visit : Visit library) : Bool :=
  visit.reply.guard

/-- Setting up the log is refused. -/
structure Fails (visit : Visit library) : Prop where
  setsUp : visit.step.setsUpLog = true
  refused : visit.opening = .refused

/-- An error is described: it is the reply, or the launcher tells of it. -/
def Describes (visit : Visit library) : Prop :=
  visit.reply.isError = true ∨
    ∃ event ∈ visit.emitted, Launcher.tellsOfFault event = true

end Visit

/-! ## What a step replies -/

theorem guard_openReply (outcome : LogOpening) :
    (openReply library outcome).guard = true ↔ outcome = .installed := by
  cases outcome <;> simp [openReply, Reply.guard]

theorem isError_openReply (outcome : LogOpening) :
    (openReply library outcome).isError = true ↔ outcome = .refused := by
  cases outcome <;> simp [openReply, Reply.isError]

/-- A preparation hands out the guard where the log is installed, and brings no
error. -/
theorem concludePreparing_reply
    (outcome : LogOpening) (reporting : Option String) :
    ((concludePreparing library outcome reporting : Traced Reply).value.guard =
        true ↔ outcome = .installed) ∧
      (concludePreparing library outcome reporting :
        Traced Reply).value.isError = false := by
  rw [concludePreparing]
  cases outcome <;> simp [Reply.guard, Reply.isError, LogOpening.guard]

theorem tellsOfFault_openReply (outcome : LogOpening) :
    (openReply library outcome).tellsOfFault = false := by
  cases outcome <;> rfl

theorem isError_ran (result : Except LaunchFailure UInt32) :
    (Reply.ran result).isError = (Reply.ran result).tellsOfFault := by
  cases result <;> rfl

namespace Visit

variable {visit : Visit library} {directory : Place}

/-- A step that does not set up the log hands out no guard, and the only error
that it brings is one that the launcher failed with. -/
theorem reply_of_not_setsUpLog
    (visit : Visit library) (other : visit.step.setsUpLog = false) :
    visit.reply.guard = false ∧
      visit.reply.isError = visit.reply.tellsOfFault := by
  obtain ⟨session, step⟩ := visit
  rw [reply, outcome, Session.run_step]
  cases step with
  | openLog => cases other
  | prepare => cases other
  | set setting value =>
      cases unsettable : Session.isUnsettable value with
      | true => simp [Session.perform, unsettable, Reply.guard, Reply.isError,
          Reply.tellsOfFault]
      | false => simp [Session.perform, unsettable, Reply.guard, Reply.isError,
          Reply.tellsOfFault]
  | event severity message => exact ⟨rfl, rfl⟩
  | deriveDirectory imagePath => exact ⟨rfl, rfl⟩
  | run host directory argv => exact ⟨rfl, isError_ran _⟩
  | launch host => exact ⟨rfl, rfl⟩

theorem guard_iff_opening (visit : Visit library) :
    visit.guard = true ↔
      visit.step.setsUpLog = true ∧ visit.opening = .installed := by
  cases setsUp : visit.step.setsUpLog with
  | false => simp [guard, (visit.reply_of_not_setsUpLog setsUp).1]
  | true =>
      refine Iff.trans ?_ (and_iff_right rfl).symm
      obtain ⟨session, step⟩ := visit
      rcases step.setsUpLog_iff.mp setsUp with rfl | rfl
      · rw [guard, reply_openLog]
        exact guard_openReply _
      · rw [guard, (outcome_prepare session).1]
        exact (concludePreparing_reply _ _).1

/-- An error is brought by a failure of the launcher, or by a log that is set
up by itself and refused. -/
theorem isError_reply_iff (visit : Visit library) :
    visit.reply.isError = true ↔
      visit.reply.tellsOfFault = true ∨
        visit.step = .openLog ∧ visit.opening = .refused := by
  obtain ⟨session, step⟩ := visit
  cases setsUp : step.setsUpLog with
  | false =>
      have elsewhere : step ≠ .openLog := by
        rintro rfl
        cases setsUp
      rw [(reply_of_not_setsUpLog _ setsUp).2]
      simp [elsewhere]
  | true =>
      rcases step.setsUpLog_iff.mp setsUp with rfl | rfl
      · rw [reply_openLog, isError_openReply, tellsOfFault_openReply]
        simp [opening]
      · rw [(outcome_prepare session).1, (concludePreparing_reply _ _).2]
        rw [concludePreparing]
        split <;> simp [Reply.tellsOfFault]

/-! ## What a step does to the subscriber -/

/-- Where the log is set up, the first subscriber is installed and the others
are refused. -/
theorem opening_of_setsUp (setsUp : visit.SetsUp directory) :
    visit.opening =
      if visit.session.subscriber.isSome then .refused else .installed := by
  have completed := setsUp.completed
  rw [ne_eq, (visit.begun_of_setsUpLog setsUp.setsUp).2.2] at completed
  have opened := visit.session.opening_openLog
  rw [opening]
  generalize visit.session.openLog = outcome at completed opened ⊢
  cases opened with
  | unused nowhere =>
      rw [setsUp.found] at nowhere
      cases nowhere
  | shut found shut => exact absurd rfl completed
  | severed admits severed => exact absurd rfl completed
  | refused admits read present => rw [if_pos present]
  | installed admits read vacant => simp [vacant]

/-- The log is set up where it is installed or refused. -/
theorem exists_setsUp_iff (visit : Visit library) :
    (∃ directory, visit.SetsUp directory) ↔
      visit.step.setsUpLog = true ∧
        (visit.opening = .installed ∨ visit.opening = .refused) := by
  constructor
  · rintro ⟨directory, setsUp⟩
    refine ⟨setsUp.setsUp, ?_⟩
    rw [opening_of_setsUp setsUp]
    cases visit.session.subscriber <;> simp
  · rintro ⟨setsUp, reached⟩
    cases found : visit.session.directory? with
    | none =>
        rw [opening, Session.openLog_of_not_found found] at reached
        simp at reached
    | some directory =>
        refine ⟨directory, ⟨setsUp, found⟩, ?_⟩
        intro aborted
        have broken : visit.opening = .aborted :=
          (visit.begun_of_setsUpLog setsUp).2.2.mp aborted
        rw [broken] at reached
        simp at reached

/-- Setting up the log is refused just where a subscriber is installed. -/
theorem fails_iff (visit : Visit library) :
    visit.Fails ↔
      (∃ directory, visit.SetsUp directory) ∧
        visit.session.subscriber.isSome = true := by
  constructor
  · rintro ⟨setsUp, refused⟩
    rcases visit.exists_setsUp_iff.mpr ⟨setsUp, .inr refused⟩ with
      ⟨directory, reached⟩
    refine ⟨⟨directory, reached⟩, ?_⟩
    by_contra vacant
    rw [opening_of_setsUp reached, if_neg vacant] at refused
    cases refused
  · rintro ⟨⟨directory, reached⟩, present⟩
    refine ⟨reached.setsUp, ?_⟩
    rw [opening_of_setsUp reached, if_pos present]

/-- The guard of the log is handed out just where no subscriber is. -/
theorem guard_iff (visit : Visit library) :
    visit.guard = true ↔
      (∃ directory, visit.SetsUp directory) ∧
        visit.session.subscriber = none := by
  rw [guard_iff_opening]
  constructor
  · rintro ⟨setsUp, installed⟩
    rcases visit.exists_setsUp_iff.mpr ⟨setsUp, .inl installed⟩ with
      ⟨directory, reached⟩
    refine ⟨⟨directory, reached⟩, ?_⟩
    rw [opening_of_setsUp reached] at installed
    cases present : visit.session.subscriber with
    | none => rfl
    | some receiver =>
        rw [present] at installed
        cases installed
  · rintro ⟨⟨directory, reached⟩, vacant⟩
    refine ⟨reached.setsUp, ?_⟩
    rw [opening_of_setsUp reached, vacant]
    rfl

/-- A subscriber that is there stays, and one is installed where the log is
set up. -/
theorem isSome_subscriber_next_iff (visit : Visit library) :
    visit.next.subscriber.isSome = true ↔
      visit.session.subscriber.isSome = true ∨
        ∃ directory, visit.SetsUp directory := by
  rw [subscriber_next]
  have changed := visit.changes
  generalize visit.begun.volume = volume,
    visit.begun.subscriber = subscriber at changed ⊢
  cases changed with
  | nothing unopened =>
      refine (or_iff_left ?_).symm
      rintro ⟨directory, setsUp⟩
      exact unopened directory setsUp.opens
  | opened opens uninstalled =>
      cases present : visit.session.subscriber with
      | none => simp [uninstalled present]
      | some receiver => simp
  | installed setsUp vacant read =>
      exact iff_of_true rfl (.inr ⟨_, setsUp⟩)

/-- The guard is handed out by the step that installs the subscriber. -/
theorem isSome_subscriber_next_iff_guard (visit : Visit library) :
    visit.next.subscriber.isSome = true ↔
      visit.session.subscriber.isSome = true ∨ visit.guard = true := by
  rw [isSome_subscriber_next_iff, guard_iff]
  cases visit.session.subscriber <;> simp

end Visit

/-! ## What a step does to error reporting -/

namespace Session

/-- Telling of a fault puts it into words, and telling of nothing else does. -/
theorem reporting_tell (session : Session library) (event : Event) :
    (session.tell event).reporting ≠ [] ↔
      session.reporting ≠ [] ∨ Launcher.tellsOfFault event = true := by
  have received : (session.receive event).reporting = session.reporting := by
    rw [receive]
    split
    · rfl
    · split <;> rfl
  cases faulty : Launcher.tellsOfFault event with
  | true => simp [tell, faulty, describe]
  | false => simp [tell, faulty, received]

/-- Telling events is in the way of error reporting if one of them tells of a
fault. -/
theorem reporting_tellAll
    (session : Session library) (events : List Event) :
    (session.tellAll events).reporting ≠ [] ↔
      session.reporting ≠ [] ∨
        ∃ event ∈ events, Launcher.tellsOfFault event = true := by
  induction events generalizing session with
  | nil => simp
  | cons event rest ih =>
      rw [tellAll_cons, ih, reporting_tell, List.exists_mem_cons_iff, or_assoc]

/-- Setting up the log is in the way of error reporting if it is refused. -/
theorem reporting_openLog (session : Session library) :
    session.openLog.2.reporting ≠ [] ↔
      session.reporting ≠ [] ∨ session.openLog.1 = .refused := by
  have opening := session.opening_openLog
  generalize session.openLog = outcome at opening ⊢
  cases opening <;> simp [withLog, describe]

end Session

namespace Visit

/-- A step uses error reporting as it begins if it prepares the process, or if
its log is refused. -/
theorem reporting_begun (visit : Visit library) :
    visit.begun.reporting ≠ [] ↔
      visit.session.reporting ≠ [] ∨ visit.step = .prepare ∨
        visit.step = .openLog ∧ visit.opening = .refused := by
  obtain ⟨session, step⟩ := visit
  cases step with
  | openLog =>
      rw [begun, Session.reporting_openLog]
      simp [opening]
  | prepare =>
      rw [begun, Session.reporting_openLog]
      simp [Session.installReporting]
  | set setting value =>
      rw [(begun_set session setting value).2.2.2]
      simp
  | event severity message => simp [begun]
  | deriveDirectory imagePath => simp [begun]
  | run host directory argv => simp [begun]
  | launch host => simp [begun]

/-- Error reporting can be installed in a process until it is prepared, or an
error is described. -/
theorem reporting_next_ne_nil_iff (visit : Visit library) :
    visit.next.reporting ≠ [] ↔
      visit.session.reporting ≠ [] ∨
        visit.step = .prepare ∨ visit.Describes := by
  have concluded : visit.next.reporting ≠ [] ↔
      visit.reply.tellsOfFault = true ∨
        (visit.begun.tellAll visit.emitted).reporting ≠ [] := by
    rw [next_eq]
    split
    · next faulty => simp [Session.describe, faulty]
    · next sound => simp [sound]
  rw [concluded, Session.reporting_tellAll, reporting_begun, Describes,
    isError_reply_iff]
  tauto

end Visit

/-! ## Whole runs -/

/-- Error reporting has been installed by a step that prepared the process. -/
def Prepared (earlier : List (Visit library)) : Prop :=
  ∃ visit ∈ earlier, visit.step = .prepare

/-- Error reporting can no longer be installed: the process has been prepared,
or an error has been described. -/
def Blocked (earlier : List (Visit library)) : Prop :=
  ∃ visit ∈ earlier, visit.step = .prepare ∨ visit.Describes

namespace Session

variable {session : Session library}

/-- What steps bring about and none takes back holds at the end of a run if it
held before or one of the steps brought it about. -/
theorem after_iff_of_next_iff
    (holds : Session library → Prop) {causes : Visit library → Prop}
    (step : ∀ visit : Visit library,
      holds visit.next ↔ holds visit.session ∨ causes visit)
    (session : Session library) (taken : List Step) :
    holds (session.after taken) ↔
      holds session ∨ ∃ visit ∈ session.visits taken, causes visit := by
  induction taken generalizing session with
  | nil => simp
  | cons first rest ih =>
      rw [after_cons, ih, step, visits_cons, List.exists_mem_cons_iff,
        or_assoc]

theorem isSome_subscriber_after_iff
    (session : Session library) (taken : List Step) :
    (session.after taken).subscriber.isSome = true ↔
      session.subscriber.isSome = true ∨
        ∃ visit ∈ session.visits taken, ∃ directory, visit.SetsUp directory :=
  after_iff_of_next_iff (·.subscriber.isSome = true)
    Visit.isSome_subscriber_next_iff session taken

theorem isSome_subscriber_after_iff_guard
    (session : Session library) (taken : List Step) :
    (session.after taken).subscriber.isSome = true ↔
      session.subscriber.isSome = true ∨
        ∃ visit ∈ session.visits taken, visit.guard = true :=
  after_iff_of_next_iff (·.subscriber.isSome = true)
    Visit.isSome_subscriber_next_iff_guard session taken

theorem reporting_after_ne_nil_iff
    (session : Session library) (taken : List Step) :
    (session.after taken).reporting ≠ [] ↔
      session.reporting ≠ [] ∨ Blocked (session.visits taken) :=
  after_iff_of_next_iff (·.reporting ≠ [])
    Visit.reporting_next_ne_nil_iff session taken

/-- Where a subscriber writes, there is a file. -/
def IsAttached (session : Session library) : Prop :=
  ∀ receiver, session.subscriber = some receiver →
    session.volume.content? receiver.file =
      some (session.volume.text receiver.file)

end Session

namespace Visit

/-- Whoever is told of the events of a step records them, and that in a file
which is there. -/
theorem next_of_isAttached
    {visit : Visit library} (attached : visit.session.IsAttached)
    {receiver : Subscriber} (present : visit.next.subscriber = some receiver) :
    visit.next.volume.content? receiver.file =
        some (visit.next.volume.text receiver.file) ∧
      Recorded library visit.session.volume visit.next.volume receiver
        visit.told := by
  suffices recorded : Recorded library visit.session.volume visit.next.volume
      receiver visit.told by
    refine ⟨?_, recorded⟩
    rw [recorded.text, recorded.log]
  cases there : visit.session.subscriber with
  | some earlier =>
      rcases next_of_present there (attached earlier there) with
        ⟨kept, recorded⟩
      rw [present] at kept
      cases kept
      exact recorded
  | none =>
      have installed : visit.next.subscriber.isSome = true := by
        rw [present]
        rfl
      rw [isSome_subscriber_next_iff, there] at installed
      rcases installed with there | ⟨directory, setsUp⟩
      · cases there
      · rcases next_of_setsUp there setsUp with ⟨admits, -, new, recorded⟩
        rw [present] at new
        cases new
        exact recorded

end Visit

namespace Session

variable {session : Session library}

/-- From a run without a subscriber on, where a subscriber writes there is a
file. -/
theorem isAttached_after (attached : session.IsAttached) (taken : List Step) :
    (session.after taken).IsAttached := by
  induction taken generalizing session with
  | nil => exact attached
  | cons first rest ih =>
      refine ih ?_
      intro receiver present
      exact (@Visit.next_of_isAttached _ ⟨session, first⟩ attached receiver
        present).1

/-- No guard of the log is handed out once a subscriber is there. -/
theorem countP_guard_of_present
    (present : session.subscriber.isSome = true) (taken : List Step) :
    (session.visits taken).countP Visit.guard = 0 := by
  induction taken generalizing session with
  | nil => rfl
  | cons first rest ih =>
      have kept : (Visit.mk session first).guard ≠ true := by
        rw [ne_eq, Visit.guard_iff]
        rintro ⟨-, vacant⟩
        rw [vacant] at present
        cases present
      rw [visits_cons, List.countP_cons_of_neg kept]
      exact ih ((Visit.isSome_subscriber_next_iff _).mpr (.inl present))

/-- The guard of the log is handed out once at most. -/
theorem countP_guard_le_one
    (session : Session library) (taken : List Step) :
    (session.visits taken).countP Visit.guard ≤ 1 := by
  induction taken generalizing session with
  | nil => exact Nat.zero_le 1
  | cons first rest ih =>
      by_cases given : (Visit.mk session first).guard = true
      · have setsUp := ((Visit.guard_iff _).mp given).1
        have present :=
          (Visit.isSome_subscriber_next_iff _).mpr (.inr setsUp)
        have never := countP_guard_of_present present rest
        rw [visits_cons, List.countP_cons_of_pos given]
        exact Nat.le_of_eq (congrArg (· + 1) never)
      · rw [visits_cons, List.countP_cons_of_neg given]
        exact ih _

end Session

/-! ## What a preparation warns of -/

/-- A warning with the given words in front if there is cause for it, and no
event otherwise. -/
structure Warns (cause : Prop) (words : String) (events : List Event) :
    Prop where
  given : cause → ∃ reason, events = [⟨.warn, .logging, words ++ reason⟩]
  silent : ¬ cause → events = []

theorem Warns.length_le_one
    {cause : Prop} {words : String} {events : List Event}
    (warns : Warns cause words events) : events.length ≤ 1 := by
  by_cases present : cause
  · rcases warns.given present with ⟨reason, rfl⟩
    exact Nat.le_refl 1
  · rw [warns.silent present]
    exact Nat.zero_le 1

/-- There is cause for a warning where something was refused. -/
theorem warns_warn
    {cause : Prop} {refusal : Option String} (words : String)
    (refused : cause ↔ refusal ≠ none) :
    Warns cause words (warn words refusal : Traced Unit).events := by
  cases refusal with
  | none =>
      refine ⟨fun given => absurd rfl (refused.mp given), fun _ => rfl⟩
  | some reason =>
      exact ⟨fun _ => ⟨reason, rfl⟩,
        fun silent => absurd (refused.mpr nofun) silent⟩

/-- The warning about the log comes before the one about error reporting. -/
theorem Visit.exists_emitted_eq_append
    {visit : Visit library} (prepares : visit.step = .prepare)
    (completed : visit.reply ≠ .aborted) :
    ∃ log reporting, visit.emitted = log ++ reporting ∧
      Warns visit.Fails "unable to set up the log file: " log ∧
      Warns (visit.session.reporting ≠ [])
        "unable to install error reporting: " reporting := by
  obtain ⟨session, step⟩ := visit
  cases prepares
  have going : session.openLog.1 ≠ .aborted := by
    rw [ne_eq, ← (begun_of_setsUpLog ⟨session, .prepare⟩ rfl).2.2]
    exact completed
  have reported : emitted ⟨session, .prepare⟩ =
      (warn "unable to set up the log file: "
        (session.openLog.1.refusal? library) : Traced Unit).events ++
      (warn "unable to install error reporting: "
        session.installReporting.1 : Traced Unit).events := by
    rw [(outcome_prepare session).2, concludePreparing, if_neg going]
    simp
  refine ⟨_, _, reported, warns_warn _ ?_, warns_warn _ ?_⟩
  · rw [LogOpening.refusal?]
    constructor
    · rintro ⟨-, refused⟩
      simp [show session.openLog.1 = .refused from refused]
    · intro refused
      refine ⟨rfl, ?_⟩
      by_contra passes
      exact refused (if_neg passes)
  · rw [Session.installReporting, ne_eq, ne_eq,
      library.reportingRefusal?_eq_none_iff]

/-- What setting up the log and preparing the process come to in a step of a
run, if `blocked` tells of the steps before it whether error reporting can no
longer be installed. -/
structure Preparation
    (blocked : List (Visit library) → Prop)
    (earlier : List (Visit library)) (visit : Visit library) : Prop where
  fails_iff :
    visit.Fails ↔
      (∃ directory, visit.SetsUp directory) ∧
        visit.session.subscriber.isSome = true
  replied : visit.step = .openLog →
    (visit.reply.isError = true ↔ visit.Fails)
  guard_iff :
    visit.guard = true ↔
      (∃ directory, visit.SetsUp directory) ∧
        ∀ other ∈ earlier, ∀ directory, ¬ other.SetsUp directory
  warned : visit.step = .prepare → visit.reply ≠ .aborted →
    ∃ log reporting, visit.emitted = log ++ reporting ∧
      Warns visit.Fails "unable to set up the log file: " log ∧
      Warns (blocked earlier) "unable to install error reporting: " reporting
  /-- Who is told of a log that could not be set up. -/
  told_of_log :
    visit.Fails → visit.next.subscriber.isSome = true
  /-- Who is told of error reporting that could not be installed. -/
  told_of_reporting :
    visit.next.subscriber.isSome = true ↔
      ∃ other ∈ earlier ++ [visit], other.guard = true
  /-- Where the guard is handed out, the log and the filter that are set are
  the ones of the subscriber. -/
  installed : ∀ directory, visit.SetsUp directory → visit.guard = true →
    ∃ admits,
      library.filter? visit.session.logFilter = some admits ∧
        visit.next.subscriber = some ⟨logPlace directory, admits⟩
  /-- Whoever is told of what the step reports records it. -/
  recorded : ∀ receiver, visit.next.subscriber = some receiver →
    Recorded library visit.session.volume visit.next.volume receiver
      visit.told

/-- What setting up the log and preparing the process come to in a run. -/
structure Preparations
    (blocked : List (Visit library) → Prop) (run : List (Visit library)) :
    Prop where
  single : run.countP Visit.guard ≤ 1
  each : ∀ earlier visit later, run = earlier ++ visit :: later →
    Preparation blocked earlier visit

/-- What a step comes to behind a run. -/
theorem Session.preparation
    (volume : Volume) (first : List Step) {visit : Visit library}
    (met : visit.session = (start volume).after first) :
    Preparation Blocked ((start volume).visits first) visit := by
  have subscribed :=
    isSome_subscriber_after_iff (start volume : Session library) first
  have guarded :=
    isSome_subscriber_after_iff_guard (start volume : Session library) first
  have reported :=
    reporting_after_ne_nil_iff (start volume : Session library) first
  rw [← met] at subscribed guarded reported
  constructor
  case fails_iff => exact visit.fails_iff
  case replied =>
      intro opens
      obtain ⟨session, step⟩ := visit
      cases opens
      rw [Visit.reply_openLog, isError_openReply]
      exact ⟨fun refused => ⟨rfl, refused⟩, Visit.Fails.refused⟩
  case guard_iff =>
      have vacant : visit.session.subscriber = none ↔
          ∀ other ∈ (start volume : Session library).visits first,
            ∀ directory, ¬ other.SetsUp directory := by
        rw [← Option.not_isSome_iff_eq_none, subscribed]
        simp [start]
      rw [visit.guard_iff, vacant]
  case warned =>
      intro prepares completed
      have blocked : visit.session.reporting ≠ [] ↔
          Blocked ((start volume : Session library).visits first) := by
        rw [reported]
        exact or_iff_right (by simp [start])
      rw [← blocked]
      exact Visit.exists_emitted_eq_append prepares completed
  case told_of_log =>
      intro fails
      have present := (visit.fails_iff.mp fails).2
      exact visit.isSome_subscriber_next_iff.mpr (.inl present)
  case told_of_reporting =>
      rw [visit.isSome_subscriber_next_iff_guard, guarded]
      simp [or_and_right, exists_or, start]
  case installed =>
      intro directory setsUp given
      have vacant := (visit.guard_iff.mp given).2
      rcases Visit.next_of_setsUp vacant setsUp with
        ⟨admits, read, present, -⟩
      exact ⟨admits, read, present⟩
  case recorded =>
      intro receiver present
      have attached : visit.session.IsAttached := by
        rw [met]
        refine isAttached_after ?_ first
        intro receiver present
        cases present
      exact (Visit.next_of_isAttached attached present).2

/-- The log is set up at most once in a run, in the first step that can, and
is refused from then on.  A preparation warns first of a log that is refused,
which a subscriber is there to be told, and then of error reporting, if that
can no longer be installed; the subscriber that it has just installed is told
of this too. -/
theorem preparations
    (library : Library) (volume : Volume) (taken : List Step) :
    Preparations Blocked
      ((Session.start volume : Session library).visits taken) := by
  constructor
  case single => exact Session.countP_guard_le_one _ _
  case each =>
      intro earlier visit later split
      rcases Session.exists_of_visits_eq split with
        ⟨first, -, -, rfl, met, -⟩
      exact Session.preparation volume first met

/-- A run that is refused a second log. -/
def refusedTwice : List Step :=
  [.set .logDirectory (some "/logs"), .openLog, .openLog]

/-- What that run leaves where there is a directory for the log. -/
def leftRefused : Session .standard :=
  (Session.start (.ofTree ["home"] ["/logs"] [])).after refusedTwice

/-- The process is prepared for the first time behind that run. -/
def preparedLate : Visit .standard :=
  ⟨leftRefused, .prepare⟩

theorem visits_preparedLate :
    (Session.start (.ofTree ["home"] ["/logs"] []) : Session .standard).visits
        (refusedTwice ++ [.prepare]) =
      (Session.start (.ofTree ["home"] ["/logs"] [])).visits refusedTwice ++
        preparedLate :: [] :=
  rfl

/-- The log is refused once more in the preparation, and the subscriber of the
log that was set up is there to be told. -/
theorem preparations_preparedLate :
    preparedLate.Fails ∧ preparedLate.next.subscriber.isSome = true := by
  have fails : preparedLate.Fails := ⟨rfl, by decide +kernel⟩
  have preparation :=
    (preparations .standard (.ofTree ["home"] ["/logs"] [])
      (refusedTwice ++ [.prepare])).each _ _ _ visits_preparedLate
  exact ⟨fails, preparation.told_of_log fails⟩

/-- The error of the refused log has been described, and that is in the way of
error reporting although the process has not been prepared before. -/
theorem not_preparations_of_prepared :
    ¬ Preparations Prepared
      ((Session.start (.ofTree ["home"] ["/logs"] []) :
        Session .standard).visits (refusedTwice ++ [.prepare])) := by
  intro claimed
  have unprepared : ¬ Prepared
      ((Session.start (.ofTree ["home"] ["/logs"] []) :
        Session .standard).visits refusedTwice) := by
    rintro ⟨visit, member, prepares⟩
    simp only [refusedTwice, Session.visits_cons, Session.visits_nil,
      List.mem_cons, List.not_mem_nil, or_false] at member
    rcases member with rfl | rfl | rfl <;> cases prepares
  have preparation := claimed.each _ _ _ visits_preparedLate
  have completed : preparedLate.reply ≠ .aborted := by
    rw [ne_eq, (preparedLate.begun_of_setsUpLog rfl).2.2]
    decide +kernel
  rcases preparation.warned rfl completed with
    ⟨log, reporting, emitted, refused, blocked⟩
  have warnings : preparedLate.emitted.length = 2 := by decide +kernel
  rw [emitted, blocked.silent unprepared, List.append_nil] at warnings
  have single := refused.length_le_one
  omega

end WindowedLauncher.Logging
