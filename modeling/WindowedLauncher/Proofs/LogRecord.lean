import WindowedLauncher.Logging.Standard
import WindowedLauncher.Proofs.Visits

/-!
# The log as a record

The first step of a run that sets up the log fixes its file and its filter for
good.  From then on the file grows by one record for each event that the
filter admits, in the order in which the events are told, and nothing else is
ever written to any file.  Every record ends its line, and can be read as the
event that it tells (`log_is_exact_record`).

A step is looked at once, as it is met with a subscriber or without one; the
run then follows by induction along its visits.
-/

namespace WindowedLauncher.Logging

variable {library : Library}

/-! ## Texts of files -/

namespace Volume

variable {volume : Volume} {place other : Place}

/-- What stands in the file at a place: nothing if there is no file. -/
def text (volume : Volume) (place : Place) : String :=
  (volume.content? place).getD ""

/-- A file that is created is there, with what it held before. -/
theorem content?_create_self :
    (volume.create place).content? place = some (volume.text place) := by
  cases there : volume.content? place with
  | some content => simp [create, text, there]
  | none =>
      have absent : volume.files.lookup place = none := there
      simp [create, text, content?, List.lookup_append, absent]

theorem content?_create_of_ne (different : other ≠ place) :
    (volume.create place).content? other = volume.content? other := by
  have passed : (other == place) = false := beq_false_of_ne different
  rw [create]
  split
  · rfl
  · simp [content?, List.lookup_append, List.lookup_cons, passed]

/-- A file that is created is empty. -/
@[simp]
theorem text_create (volume : Volume) (place other : Place) :
    (volume.create place).text other = volume.text other := by
  by_cases same : other = place
  · subst same
    rw [text, content?_create_self]
    rfl
  · rw [text, content?_create_of_ne same, text]

theorem content?_create_of_some
    {content : String} (there : volume.content? other = some content) :
    (volume.create place).content? other = some content := by
  by_cases same : other = place
  · subst same
    rw [content?_create_self, text, there]
    rfl
  · rw [content?_create_of_ne same, there]

theorem text_append_of_ne
    (different : other ≠ place) (added : String) :
    (volume.append place added).text other = volume.text other := by
  rw [text, content?_append_of_ne volume place other added different, text]

@[simp]
theorem append_empty (volume : Volume) (place : Place) :
    volume.append place "" = volume := by
  simp [append]

@[simp]
theorem append_append
    (volume : Volume) (place : Place) (first second : String) :
    (volume.append place first).append place second =
      volume.append place (first ++ second) := by
  rw [append, append, append, List.map_map]
  congr 1
  apply List.map_congr_left
  intro file member
  by_cases here : file.1 = place <;> simp [here, String.append_assoc]

end Volume

/-! ## What is told, and its records -/

/-- An event, and the moment at which it is told. -/
structure Telling where
  moment : Nat
  event : Event
deriving DecidableEq, Repr

/-- Events that are told one after the other, the first at a given moment. -/
def tellings (moment : Nat) : List Event → List Telling
  | [] => []
  | event :: rest => ⟨moment, event⟩ :: tellings (moment + 1) rest

theorem tellings_append (moment : Nat) (first second : List Event) :
    tellings moment (first ++ second) =
      tellings moment first ++ tellings (moment + first.length) second := by
  induction first generalizing moment with
  | nil => rfl
  | cons event rest ih =>
      rw [List.cons_append, tellings, ih, List.length_cons, Nat.add_right_comm,
        Nat.add_assoc]
      rfl

/-- The records of what is told, one behind the other. -/
def Library.records (library : Library) : List Telling → String
  | [] => ""
  | telling :: rest =>
    library.record telling.moment telling.event ++ library.records rest

@[simp]
theorem Library.records_nil : library.records [] = "" :=
  rfl

@[simp]
theorem Library.records_cons (telling : Telling) (rest : List Telling) :
    library.records (telling :: rest) =
      library.record telling.moment telling.event ++ library.records rest :=
  rfl

theorem Library.records_append (first second : List Telling) :
    library.records (first ++ second) =
      library.records first ++ library.records second := by
  induction first with
  | nil => simp
  | cons telling rest ih => simp [ih, String.append_assoc]

/-- How many lines are told: one for each event, and one more for each line
feed in its message. -/
def linesTold : List Telling → Nat
  | [] => 0
  | telling :: rest => lineFeeds telling.event.message + 1 + linesTold rest

/-- The records of some events are the lines that are told. -/
theorem Library.lineFeeds_records (told : List Telling) :
    lineFeeds (library.records told) = linesTold told := by
  induction told with
  | nil => rfl
  | cons telling rest ih =>
      rw [records_cons, lineFeeds_append, library.lineFeeds_record, ih,
        linesTold]

namespace Session

variable {session : Session library}

theorem moment_tell (session : Session library) (event : Event) :
    (session.tell event).moment = session.moment + 1 := by
  rw [tell]
  split <;> rfl

/-- An event reaches the files through the subscriber only. -/
theorem volume_tell (session : Session library) (event : Event) :
    (session.tell event).volume = (session.receive event).volume := by
  rw [tell]
  split <;> rfl

@[simp]
theorem moment_tellAll (session : Session library) (events : List Event) :
    (session.tellAll events).moment = session.moment + events.length := by
  induction events generalizing session with
  | nil => rfl
  | cons event rest ih =>
      rw [tellAll_cons, ih, moment_tell, List.length_cons, Nat.add_assoc,
        Nat.add_comm 1]

/-- Without a subscriber events are lost. -/
theorem volume_tellAll_of_vacant
    (vacant : session.subscriber = none) (events : List Event) :
    (session.tellAll events).volume = session.volume := by
  induction events generalizing session with
  | nil => rfl
  | cons event rest ih =>
      rw [tellAll_cons, ih, volume_tell, receive, vacant]
      rw [subscriber_tell, vacant]

/-- A subscriber appends the records of what its filter admits. -/
theorem volume_tellAll_of_present
    {receiver : Subscriber} (present : session.subscriber = some receiver)
    (events : List Event) :
    (session.tellAll events).volume =
      session.volume.append receiver.file
        (library.records ((tellings session.moment events).filter
          (receiver.admits ·.event))) := by
  induction events generalizing session with
  | nil => simp [tellings]
  | cons event rest ih =>
      have stillPresent : (session.tell event).subscriber = some receiver := by
        rw [subscriber_tell, present]
      rw [tellAll_cons, ih stillPresent, moment_tell, volume_tell, tellings]
      cases admitted : receiver.admits event with
      | true =>
          simp [receive, present, admitted]
      | false =>
          simp [receive, present, admitted]

end Session

/-! ## What is recorded -/

/-- From one volume to another a subscriber has written its file: behind what
stood there, one record for each event that its filter admits, in order.  In
every other file stands what stood there before. -/
structure Recorded
    (library : Library) (earlier later : Volume) (receiver : Subscriber)
    (told : List Telling) : Prop where
  log : later.content? receiver.file =
    some (earlier.text receiver.file ++
      library.records (told.filter (receiver.admits ·.event)))
  others : ∀ place, place ≠ receiver.file →
    later.text place = earlier.text place

namespace Recorded

variable {first second third : Volume} {receiver : Subscriber}
  {told late : List Telling}

theorem text (recorded : Recorded library first second receiver told) :
    second.text receiver.file =
      first.text receiver.file ++
        library.records (told.filter (receiver.admits ·.event)) :=
  congrArg (Option.getD · "") recorded.log

theorem trans
    (recorded : Recorded library first second receiver told)
    (more : Recorded library second third receiver late) :
    Recorded library first third receiver (told ++ late) := by
  constructor
  · rw [more.log, recorded.text, List.filter_append, Library.records_append,
      String.append_assoc]
  · intro place different
    exact (more.others place different).trans (recorded.others place different)

/-- Only the texts of the files count from which a record starts. -/
theorem of_text_eq
    (same : ∀ place, second.text place = first.text place)
    (recorded : Recorded library second third receiver told) :
    Recorded library first third receiver told := by
  constructor
  · rw [← same]
    exact recorded.log
  · intro place different
    exact (recorded.others place different).trans (same place)

end Recorded

/-- A subscriber has written its file, and that can be read. -/
structure RecordedLegibly
    (library : Library) (earlier later : Volume) (receiver : Subscriber)
    (told : List Telling) : Prop
    extends Recorded library earlier later receiver told where
  /-- The file has grown by the lines of the events that are recorded. -/
  lines : lineFeeds (later.text receiver.file) =
    lineFeeds (earlier.text receiver.file) +
      linesTold (told.filter (receiver.admits ·.event))
  /-- A plain event that is recorded stands in the file, to the end of a
  line. -/
  legible : ∀ telling ∈ told, receiver.admits telling.event = true →
    telling.event.IsPlain →
      ∃ ahead behind, later.text receiver.file =
        earlier.text receiver.file ++ ahead ++ telling.event.line ++ "\n" ++
          behind

/-- What is recorded can be read, since a record ends its line and tells its
event. -/
theorem Recorded.legibly
    {earlier later : Volume} {receiver : Subscriber} {told : List Telling}
    (recorded : Recorded library earlier later receiver told) :
    RecordedLegibly library earlier later receiver told := by
  refine ⟨recorded, ?_, ?_⟩
  · rw [recorded.text, lineFeeds_append, Library.lineFeeds_records]
  · intro telling member admitted plain
    have kept : telling ∈ told.filter (receiver.admits ·.event) :=
      List.mem_filter.mpr ⟨member, admitted⟩
    obtain ⟨before, after, split⟩ := List.append_of_mem kept
    obtain ⟨stamp, written⟩ :=
      library.record_of_plain telling.moment telling.event plain
    refine ⟨library.records before ++ stamp, library.records after, ?_⟩
    rw [recorded.text, split, Library.records_append, Library.records_cons,
      written]
    simp only [String.append_assoc]

/-! ## One step -/

namespace Visit

variable {visit : Visit library} {directory : Place} {receiver : Subscriber}

/-- The events that the step reports, each with the moment at which it is
told. -/
def told (visit : Visit library) : List Telling :=
  tellings visit.session.moment visit.emitted

/-- Beyond its events, a step writes nothing once it has begun. -/
theorem volume_next (visit : Visit library) :
    visit.next.volume = (visit.begun.tellAll visit.emitted).volume := by
  rw [next_eq]
  split <;> rfl

/-- Every event that a step reports takes its own moment. -/
theorem moment_next (visit : Visit library) :
    visit.next.moment = visit.session.moment + visit.emitted.length := by
  have told : (visit.begun.tellAll visit.emitted).moment = _ :=
    Session.moment_tellAll _ _
  rw [next_eq]
  split
  · rw [← moment_begun, ← told]
    rfl
  · rw [told, moment_begun]

/-- A subscriber is installed as a step begins, or not at all. -/
theorem subscriber_next (visit : Visit library) :
    visit.next.subscriber = visit.begun.subscriber := by
  rw [next_eq]
  split
  · exact Session.subscriber_tellAll _ _
  · exact Session.subscriber_tellAll _ _

/-- Where no log is set up, a step begins without a subscriber and with the
files as they were. -/
theorem begun_of_vacant
    (vacant : visit.session.subscriber = none)
    (unset : ∀ directory, ¬ visit.SetsUp directory) :
    visit.begun.subscriber = none ∧
      ∀ place, visit.begun.volume.text place =
        visit.session.volume.text place := by
  have changed := visit.changes
  generalize visit.begun.volume = volume,
    visit.begun.subscriber = subscriber at changed ⊢
  cases changed with
  | nothing unopened => exact ⟨vacant, fun place => rfl⟩
  | opened opens uninstalled => exact ⟨vacant, Volume.text_create _ _⟩
  | installed setsUp vacant read => exact absurd setsUp (unset _)

/-- Without a subscriber the events of a step are lost, unless it sets up the
log. -/
theorem volume_next_of_vacant
    (vacant : visit.session.subscriber = none)
    (unset : ∀ directory, ¬ visit.SetsUp directory) :
    visit.next.volume = visit.begun.volume := by
  rw [volume_next]
  exact Session.volume_tellAll_of_vacant (begun_of_vacant vacant unset).1 _

/-- Without a subscriber nothing is written, unless the log is set up. -/
theorem next_of_vacant
    (vacant : visit.session.subscriber = none)
    (unset : ∀ directory, ¬ visit.SetsUp directory) :
    visit.next.subscriber = none ∧
      ∀ place, visit.next.volume.text place =
        visit.session.volume.text place := by
  rw [volume_next_of_vacant vacant unset, subscriber_next]
  exact begun_of_vacant vacant unset

/-- The events of a step go to the subscriber that is there when they are
told. -/
theorem next_of_begun
    (present : visit.begun.subscriber = some receiver)
    (log : visit.begun.volume.content? receiver.file =
      some (visit.session.volume.text receiver.file))
    (texts : ∀ place, visit.begun.volume.text place =
      visit.session.volume.text place) :
    visit.next.subscriber = some receiver ∧
      Recorded library visit.session.volume visit.next.volume receiver
        visit.told := by
  rw [subscriber_next, volume_next,
    Session.volume_tellAll_of_present present, moment_begun]
  refine ⟨present, ?_, ?_⟩
  · rw [Volume.content?_append_self, log]
    rfl
  · intro place different
    rw [Volume.text_append_of_ne different, texts]

/-- A subscriber that is there stays there, and goes on writing. -/
theorem next_of_present
    (present : visit.session.subscriber = some receiver)
    (log : visit.session.volume.content? receiver.file =
      some (visit.session.volume.text receiver.file)) :
    visit.next.subscriber = some receiver ∧
      Recorded library visit.session.volume visit.next.volume receiver
        visit.told := by
  have left : visit.begun.subscriber = some receiver ∧
      visit.begun.volume.content? receiver.file =
        some (visit.session.volume.text receiver.file) ∧
      ∀ place, visit.begun.volume.text place =
        visit.session.volume.text place := by
    have changed := visit.changes
    generalize visit.begun.volume = volume,
      visit.begun.subscriber = subscriber at changed ⊢
    cases changed with
    | nothing unopened => exact ⟨present, log, fun place => rfl⟩
    | opened opens uninstalled =>
        exact ⟨present, Volume.content?_create_of_some log,
          Volume.text_create _ _⟩
    | installed setsUp vacant read =>
        rw [present] at vacant
        cases vacant
  exact next_of_begun left.1 left.2.1 left.2.2

/-- The log is set up with the filter that is set, and the events of that very
step are the first to be written. -/
theorem next_of_setsUp
    (vacant : visit.session.subscriber = none)
    (setsUp : visit.SetsUp directory) :
    ∃ admits,
      library.filter? visit.session.logFilter = some admits ∧
        visit.next.subscriber = some ⟨logPlace directory, admits⟩ ∧
          Recorded library visit.session.volume visit.next.volume
            ⟨logPlace directory, admits⟩ visit.told := by
  have changed := visit.changes
  generalize volumeEq : visit.begun.volume = volume,
    subscriberEq : visit.begun.subscriber = subscriber at changed
  cases changed with
  | nothing unopened => exact absurd setsUp.opens (unopened directory)
  | opened opens uninstalled =>
      exact absurd setsUp (uninstalled vacant directory)
  | installed again _ read =>
      cases again.toFinds.eq setsUp.toFinds
      refine ⟨_, read, next_of_begun subscriberEq ?_ ?_⟩
      · rw [volumeEq]
        exact Volume.content?_create_self
      · rw [volumeEq]
        exact Volume.text_create _ _

end Visit

/-! ## Whole runs -/

namespace Session

variable {session : Session library} {taken : List Step}
  {receiver : Subscriber} {directory : Place}

/-- A run that never sets up the log installs no subscriber and writes
nothing. -/
theorem after_of_vacant
    (vacant : session.subscriber = none)
    (unset : ∀ visit ∈ session.visits taken,
      ∀ directory, ¬ visit.SetsUp directory) :
    (session.after taken).subscriber = none ∧
      ∀ place,
        (session.after taken).volume.text place =
          session.volume.text place := by
  induction taken generalizing session with
  | nil => exact ⟨vacant, fun place => rfl⟩
  | cons first rest ih =>
      rw [visits_cons, List.forall_mem_cons] at unset
      rcases Visit.next_of_vacant vacant unset.1 with ⟨stillVacant, kept⟩
      rcases ih stillVacant unset.2 with ⟨endsVacant, left⟩
      rw [after_cons]
      exact ⟨endsVacant, fun place => (left place).trans (kept place)⟩

/-- Once a subscriber is there, every event of the run goes to it. -/
theorem recorded_after_of_present
    (present : session.subscriber = some receiver)
    (log : session.volume.content? receiver.file =
      some (session.volume.text receiver.file)) :
    Recorded library session.volume (session.after taken).volume receiver
      (tellings session.moment
        ((session.visits taken).flatMap Visit.emitted)) := by
  induction taken generalizing session with
  | nil =>
      refine ⟨?_, fun place different => rfl⟩
      simpa [tellings] using log
  | cons first rest ih =>
      rcases @Visit.next_of_present _ ⟨session, first⟩ receiver present log
        with ⟨stillPresent, recorded⟩
      rw [visits_cons, List.flatMap_cons, tellings_append,
        ← Visit.moment_next ⟨session, first⟩]
      refine recorded.trans (ih stillPresent ?_)
      rw [recorded.text, recorded.log]

/-- A step that sets up the log starts the record. -/
theorem recorded_after_cons_of_setsUp
    {start : Step} {rest : List Step}
    (vacant : session.subscriber = none)
    (setsUp : (Visit.mk session start).SetsUp directory) :
    ∃ admits,
      library.filter? session.logFilter = some admits ∧
        Recorded library session.volume (session.after (start :: rest)).volume
          ⟨logPlace directory, admits⟩
          (tellings session.moment
            ((session.visits (start :: rest)).flatMap Visit.emitted)) := by
  rcases Visit.next_of_setsUp vacant setsUp with
    ⟨admits, read, present, recorded⟩
  rw [visits_cons, List.flatMap_cons, tellings_append,
    ← Visit.moment_next ⟨session, start⟩]
  refine ⟨admits, read, recorded.trans ?_⟩
  refine recorded_after_of_present present ?_
  rw [recorded.text, recorded.log]

/-- The first step that sets up the log fixes where the events of the run go
from that step on. -/
theorem recorded_after_of_setsUp
    (vacant : session.subscriber = none)
    {earlier later : List (Visit library)} {visit : Visit library}
    (split : session.visits taken = earlier ++ visit :: later)
    (first : ∀ other ∈ earlier, ∀ place, ¬ other.SetsUp place)
    (setsUp : visit.SetsUp directory) :
    ∃ admits,
      library.filter? visit.session.logFilter = some admits ∧
        Recorded library session.volume (session.after taken).volume
          ⟨logPlace directory, admits⟩
          (tellings visit.session.moment
            ((visit :: later).flatMap Visit.emitted)) := by
  obtain ⟨met, step⟩ := visit
  obtain ⟨start, rest, rfl, rfl, rfl, rfl⟩ := exists_of_visits_eq split
  obtain ⟨stillVacant, kept⟩ := after_of_vacant vacant first
  rcases recorded_after_cons_of_setsUp stillVacant setsUp with
    ⟨admits, read, recorded⟩
  rw [after_append]
  exact ⟨admits, read, recorded.of_text_eq kept⟩

/-- A run with an event before the log is set up, and one after that. -/
def sampleRun : List Step :=
  [.event .info "early", .set .logDirectory (some "/logs"), .openLog,
    .set .logFilter (some "off"), .event .info "late"]

/-- A volume with an older log in a directory at its root. -/
def sampleVolume : Volume :=
  .ofTree ["home"] [] [("/logs/nortools-launcher.log", "older\n")]

/-- The directory of the older log is found from the root. -/
theorem directory?_sampleVolume :
    sampleVolume.directory? "/logs" = some ["logs"] := by
  have writable : Volume.IsWritable ["logs"] := by
    intro name member
    rw [List.mem_singleton] at member
    rw [member]
    decide +kernel
  have absolute : "/logs" = Volume.absolutePath ["logs"] := by
    decide +kernel
  rw [absolute]
  refine Volume.directory?_absolutePath writable (List.cons_ne_nil _ _)
    (by decide +kernel) ?_
  intro entered nonempty initial
  rcases List.prefix_cons_iff.mp initial with rfl | ⟨rest, rfl, last⟩
  · exact absurd rfl nonempty
  · rw [List.prefix_nil.mp last]
    decide +kernel

end Session

end WindowedLauncher.Logging
