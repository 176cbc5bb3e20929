import WindowedLauncher.Proofs.LogRecord

/-!
# The footprint of a log

What a run leaves in the files: the log files that were opened, and records in
one of them.  A log file is opened by each step that sets up the log where a
log file is admitted, whether or not a subscriber is installed then; only the
log of the first step that is not broken off is written (`footprint`).

An existing directory with no directory in the place of its log need not admit
a log file, since the path of the log may be too long; and a step that opens a
log file is still broken off if the filter cannot be read.
`not_footprint_of_reached` has a run for each.
-/

namespace WindowedLauncher.Logging

variable {library : Library}

/-! ## Which files there are -/

namespace Volume

theorem isSome_content?_append
    (volume : Volume) (place other : Place) (added : String) :
    ((volume.append place added).content? other).isSome =
      (volume.content? other).isSome := by
  simp [append, content?, lookup_map_append]

/-- One file is created, unless it is there. -/
theorem isSome_content?_create_iff
    (volume : Volume) (place other : Place) :
    ((volume.create place).content? other).isSome ↔
      (volume.content? other).isSome ∨ other = place := by
  by_cases same : other = place
  · subst same
    simp [content?_create_self]
  · simp [content?_create_of_ne same, same]

/-- Creating a file leaves the directories as they are. -/
theorem directories_create (volume : Volume) (place : Place) :
    (volume.create place).working = volume.working ∧
      (volume.create place).directories = volume.directories := by
  rw [create]
  split <;> exact ⟨rfl, rfl⟩

end Volume

/-- Telling events creates no file and no directory. -/
theorem Session.volume_tellAll
    (session : Session library) (events : List Event) :
    (session.tellAll events).volume.working = session.volume.working ∧
      (session.tellAll events).volume.directories =
        session.volume.directories ∧
      ∀ place,
        ((session.tellAll events).volume.content? place).isSome =
          (session.volume.content? place).isSome := by
  cases present : session.subscriber with
  | none =>
      rw [volume_tellAll_of_vacant present]
      exact ⟨rfl, rfl, fun place => rfl⟩
  | some receiver =>
      rw [volume_tellAll_of_present present]
      exact ⟨rfl, rfl, fun place => Volume.isSome_content?_append _ _ _ _⟩

namespace Visit

variable {visit : Visit library}

/-- A step leaves the directories as they are. -/
theorem directories_next (visit : Visit library) :
    visit.next.volume.working = visit.session.volume.working ∧
      visit.next.volume.directories = visit.session.volume.directories := by
  obtain ⟨working, directories, -⟩ :=
    visit.begun.volume_tellAll visit.emitted
  rw [volume_next, working, directories]
  rcases visit.volume_begun with ⟨kept, -⟩ | ⟨directory, -, created⟩
  · rw [kept]
    exact ⟨rfl, rfl⟩
  · rw [created]
    exact Volume.directories_create _ _

/-- A step creates the log file that it opens, and no other file. -/
theorem isSome_content?_next_iff (visit : Visit library) (place : Place) :
    (visit.next.volume.content? place).isSome ↔
      (visit.session.volume.content? place).isSome ∨
        ∃ directory, visit.Opens directory ∧ place = logPlace directory := by
  rw [volume_next, (Session.volume_tellAll _ _).2.2]
  rcases visit.volume_begun with
    ⟨kept, unopened⟩ | ⟨directory, opens, created⟩
  · rw [kept]
    simp [unopened]
  · rw [created, Volume.isSome_content?_create_iff]
    refine or_congr_right ?_
    constructor
    · intro here
      exact ⟨directory, opens, here⟩
    · rintro ⟨other, again, here⟩
      rw [here, again.finds.eq opens.finds]

/-- A step that finds no directory for the log leaves the files as they are. -/
theorem next_of_not_finds
    (vacant : visit.session.subscriber = none)
    (lost : ∀ directory, ¬ visit.Finds directory) :
    visit.next.subscriber = none ∧
      visit.next.volume = visit.session.volume := by
  have unset : ∀ directory, ¬ visit.SetsUp directory := by
    intro directory setsUp
    exact lost directory setsUp.toFinds
  refine ⟨(next_of_vacant vacant unset).1, ?_⟩
  rw [volume_next_of_vacant vacant unset]
  rcases visit.volume_begun with ⟨kept, -⟩ | ⟨directory, opens, -⟩
  · exact kept
  · exact absurd opens.finds (lost directory)

/-- The log is set up while an existing directory is set for it that has no
directory in the place of its log. -/
structure Reaches (visit : Visit library) (directory : Place) : Prop
    extends visit.Finds directory where
  free : visit.session.volume.isDirectory (logPlace directory) = false

end Visit

/-! ## Whole runs -/

/-- The place of the log that the first step of a run starts which starts one
at all. -/
inductive IsFirstLog (starts : Visit library → Place → Prop) :
    List (Visit library) → Place → Prop where
  | here
      {visit : Visit library} {later : List (Visit library)} {directory : Place}
      (started : starts visit directory) :
      IsFirstLog starts (visit :: later) (logPlace directory)
  | later
      {visit : Visit library} {rest : List (Visit library)} {place : Place}
      (unstarted : ∀ directory, ¬ starts visit directory)
      (first : IsFirstLog starts rest place) :
      IsFirstLog starts (visit :: rest) place

/-- What a run of a process leaves in the files, if `opens` tells which steps
open a log file, and `starts` which of them start to write it. -/
structure Footprint
    (opens starts : Visit library → Place → Prop)
    (volume : Volume) (taken : List Step) : Prop where
  directories :
    ((Session.start volume : Session library).after taken).volume.directories =
      volume.directories
  files : ∀ place,
    (((Session.start volume : Session library).after
        taken).volume.content? place).isSome ↔
      (volume.content? place).isSome ∨
        ∃ visit ∈ (Session.start volume).visits taken,
          ∃ directory, opens visit directory ∧ place = logPlace directory
  kept : ∀ place,
    ¬ IsFirstLog starts ((Session.start volume).visits taken) place →
      ((Session.start volume : Session library).after
          taken).volume.text place =
        volume.text place
  grown : ∀ place, ∃ added,
    ((Session.start volume : Session library).after taken).volume.text place =
      volume.text place ++ added
  untouched :
    (∀ visit ∈ (Session.start volume : Session library).visits taken,
      ∀ directory, ¬ visit.Finds directory) →
      ((Session.start volume : Session library).after taken).volume = volume

/-- What is recorded stands behind what stood there before. -/
theorem Recorded.grown
    {earlier later : Volume} {receiver : Subscriber} {told : List Telling}
    (recorded : Recorded library earlier later receiver told)
    (place : Place) :
    ∃ added, later.text place = earlier.text place ++ added := by
  by_cases here : place = receiver.file
  · subst here
    exact ⟨_, recorded.text⟩
  · refine ⟨"", ?_⟩
    rw [recorded.others place here, String.append_empty]

namespace Session

variable {session : Session library} {taken : List Step}

theorem directories_after (session : Session library) (taken : List Step) :
    (session.after taken).volume.directories = session.volume.directories := by
  induction taken generalizing session with
  | nil => rfl
  | cons first rest ih =>
      rw [after_cons, ih]
      exact (Visit.directories_next _).2

/-- The files of a run are those it began with and the logs it opened. -/
theorem isSome_content?_after_iff
    (session : Session library) (taken : List Step) (place : Place) :
    ((session.after taken).volume.content? place).isSome ↔
      (session.volume.content? place).isSome ∨
        ∃ visit ∈ session.visits taken,
          ∃ directory, visit.Opens directory ∧ place = logPlace directory := by
  induction taken generalizing session with
  | nil => simp
  | cons first rest ih =>
      rw [after_cons, ih, Visit.isSome_content?_next_iff, visits_cons,
        List.exists_mem_cons_iff, or_assoc]

/-- A run writes nothing, or it keeps the record of the first log. -/
theorem kept_or_recorded (vacant : session.subscriber = none) :
    (∀ place,
      (session.after taken).volume.text place = session.volume.text place) ∨
    ∃ receiver told,
      IsFirstLog Visit.SetsUp (session.visits taken) receiver.file ∧
        Recorded library session.volume (session.after taken).volume receiver
          told := by
  induction taken generalizing session with
  | nil =>
      left
      intro place
      rfl
  | cons start rest ih =>
      -- From the first step that sets up the log a record is kept.
      by_cases opening : ∃ directory, (Visit.mk session start).SetsUp directory
      · rcases opening with ⟨directory, setsUp⟩
        rcases recorded_after_cons_of_setsUp vacant setsUp with
          ⟨admits, -, recorded⟩
        right
        exact ⟨⟨logPlace directory, admits⟩, _, .here setsUp, recorded⟩
      · have unset := not_exists.mp opening
        rcases Visit.next_of_vacant vacant unset with ⟨stillVacant, texts⟩
        rcases ih stillVacant with kept | ⟨receiver, told, first, recorded⟩
        · left
          intro place
          exact (kept place).trans (texts place)
        · right
          exact ⟨receiver, told, .later unset first,
            recorded.of_text_eq texts⟩

/-- Without a directory for the log the files are left as they are. -/
theorem volume_after_of_not_finds
    (vacant : session.subscriber = none)
    (lost : ∀ visit ∈ session.visits taken,
      ∀ directory, ¬ visit.Finds directory) :
    (session.after taken).volume = session.volume := by
  induction taken generalizing session with
  | nil => rfl
  | cons first rest ih =>
      rw [visits_cons, List.forall_mem_cons] at lost
      rcases Visit.next_of_not_finds vacant lost.1 with ⟨stillVacant, kept⟩
      rw [after_cons, ih stillVacant lost.2]
      exact kept

end Session

/-- A run creates the logs that it opens, and no other files.  It adds to the
log of the first step that sets up the log, and leaves every other file as it
was; without an existing directory for the log it leaves them all. -/
theorem footprint
    (library : Library) (volume : Volume) (taken : List Step) :
    Footprint (@Visit.Opens library) Visit.SetsUp volume taken := by
  have written :=
    @Session.kept_or_recorded library (.start volume) taken rfl
  constructor
  case directories => exact Session.directories_after _ _
  case files =>
      intro place
      exact Session.isSome_content?_after_iff _ _ _
  case kept =>
      intro place other
      rcases written with kept | ⟨receiver, told, first, recorded⟩
      · exact kept place
      · refine recorded.others place ?_
        intro same
        rw [same] at other
        exact other first
  case grown =>
      intro place
      rcases written with kept | ⟨receiver, told, -, recorded⟩
      · refine ⟨"", ?_⟩
        rw [kept, String.append_empty]
        rfl
      · exact recorded.grown place
  case untouched =>
      intro lost
      exact Session.volume_after_of_not_finds rfl lost

/-- A log that exists is written behind its end. -/
theorem footprint_sampleRun :
    ((Session.start Session.sampleVolume : Session .standard).after
        Session.sampleRun).volume.directories =
      Session.sampleVolume.directories ∧
    ∃ added,
      ((Session.start Session.sampleVolume : Session .standard).after
          Session.sampleRun).volume.text (logPlace ["logs"]) =
        "older\n" ++ added := by
  have left := footprint .standard Session.sampleVolume Session.sampleRun
  exact ⟨left.directories, left.grown (logPlace ["logs"])⟩

/-! ## Two runs out of line -/

/-- The working directory, written with slashes to spare. -/
def padded (slashes : Nat) : String :=
  String.ofList ('.' :: List.replicate slashes '/')

theorem utf8ByteSize_slashes (slashes : Nat) :
    (String.ofList (List.replicate slashes '/')).utf8ByteSize = slashes := by
  have one : "/".utf8ByteSize = 1 := rfl
  induction slashes with
  | zero => rfl
  | succ slashes ih =>
      simp [List.replicate_succ, ih, one, Nat.add_comm]

theorem utf8ByteSize_padded (slashes : Nat) :
    (padded slashes).utf8ByteSize = slashes + 1 := by
  have dot : ".".utf8ByteSize = 1 := rfl
  simp [padded, utf8ByteSize_slashes, dot, Nat.add_comm]

theorem splitOn_slashes (slashes : Nat) :
    (List.replicate slashes '/').splitOn '/' =
      List.replicate (slashes + 1) [] := by
  induction slashes with
  | zero => rfl
  | succ slashes ih =>
      rw [List.splitOn] at ih
      simp [List.splitOn, List.replicate_succ,
        List.splitOnP_cons_eq_if_modifyHead, ih]

/-- Slashes to spare lead nowhere. -/
theorem steps_padded (slashes : Nat) : Volume.steps (padded slashes) = [] := by
  have split : ('.' :: List.replicate slashes '/').splitOn '/' =
      ['.'] :: List.replicate slashes [] := by
    have rest := splitOn_slashes slashes
    rw [List.splitOn] at rest
    simp [List.splitOn, List.splitOnP_cons_eq_if_modifyHead, rest,
      List.replicate_succ]
  simp [Volume.steps, padded, split]

/-- The path is relative, and leads nowhere else. -/
theorem directory?_padded
    (volume : Volume) {slashes : Nat}
    (short : slashes + 1 < Volume.pathLimit) :
    volume.directory? (padded slashes) = some volume.working := by
  have relative :
      Volume.beginning volume.working (padded slashes) = volume.working := by
    simp [Volume.beginning, padded]
  have named : (padded slashes).isEmpty = false := by
    simp [padded]
  have fits : Volume.isTooLong (padded slashes) = false := by
    simpa [Volume.isTooLong, utf8ByteSize_padded] using short
  simp [Volume.directory?, relative, named, fits, steps_padded, Volume.follow?]

/-- The path of the log can be too long where that of its directory is not. -/
theorem isTooLong_joined_padded
    {slashes : Nat} (long : Volume.pathLimit ≤ slashes + 22) :
    Volume.isTooLong (Volume.joined (padded slashes) logName) = true := by
  have name : logName.utf8ByteSize = 21 := rfl
  rw [Volume.joined]
  split <;> simp [Volume.isTooLong, utf8ByteSize_padded, name] <;> omega

/-- A run that sets up the log once, in the working directory. -/
def overlong (slashes : Nat) : List Step :=
  [.set .logDirectory (some (padded slashes)), .openLog]

theorem visits_overlong (volume : Volume) (slashes : Nat) :
    (Session.start volume : Session library).visits (overlong slashes) =
      [⟨.start volume, .set .logDirectory (some (padded slashes))⟩,
        ⟨(Session.start volume).set (some (padded slashes)) .logDirectory,
          .openLog⟩] := by
  have settable : Session.isUnsettable (some (padded slashes)) = false := by
    simp [Session.isUnsettable, padded]
  rw [overlong, Session.visits_cons, Visit.next_set _ _ settable]
  rfl

/-- The path of the directory is within the limit, and that of the log in it
is not. -/
theorem not_footprint_overlong
    {starts : Visit library → Place → Prop} {slashes : Nat}
    (short : slashes + 1 < Volume.pathLimit)
    (long : Volume.pathLimit ≤ slashes + 22) :
    ¬ Footprint Visit.Reaches starts ⟨["home"], [], []⟩ (overlong slashes) := by
  intro claimed
  have promised := claimed.files (logPlace ["home"])
  rw [Session.isSome_content?_after_iff, visits_overlong] at promised
  have reached : @Visit.Reaches library
      ⟨(Session.start ⟨["home"], [], []⟩).set (some (padded slashes))
        .logDirectory, .openLog⟩ ["home"] :=
    ⟨⟨rfl, directory?_padded _ short⟩, rfl⟩
  have opened := promised.mpr (.inr ⟨_, by simp, ["home"], reached, rfl⟩)
  rcases opened with present | ⟨visit, member, directory, opens, -⟩
  · cases present
  · simp only [List.mem_cons, List.not_mem_nil, or_false] at member
    rcases member with rfl | rfl
    · cases opens.setsUp
    · -- The directory is found, but no log is opened in it.
      have fits := opens.admits.short (padded slashes) rfl
      rw [isTooLong_joined_padded long] at fits
      cases fits

namespace IsFirstLog

variable {visit : Visit library} {rest : List (Visit library)}
  {place directory : Place}

theorem of_not_setsUpLog
    (first : IsFirstLog Visit.Reaches (visit :: rest) place)
    (other : visit.step.setsUpLog = false) :
    IsFirstLog Visit.Reaches rest place := by
  cases first with
  | here reached =>
      rw [reached.setsUp] at other
      cases other
  | later _ first => exact first

theorem eq_of_reaches
    (first : IsFirstLog Visit.Reaches (visit :: rest) place)
    (reached : visit.Reaches directory) :
    place = logPlace directory := by
  cases first with
  | here again => rw [again.toFinds.eq reached.toFinds]
  | later unreached _ => exact absurd reached (unreached directory)

end IsFirstLog

/-- A volume with two directories in the working directory. -/
def twoDirectories : Volume :=
  .ofTree ["home"] ["a", "b"] []

/-- A run that sets up the log in two directories, at first with a filter that
cannot be read. -/
def severed : List Step :=
  [.set .logFilter (some "debug, é="), .set .logDirectory (some "a"), .openLog,
    .set .logFilter none, .set .logDirectory (some "b"), .openLog,
    .event .info "x"]

/-- The run is written to the second log. -/
theorem not_footprint_severed {opens : Visit .standard → Place → Prop} :
    ¬ Footprint opens Visit.Reaches twoDirectories severed := by
  intro claimed
  have other : ¬ IsFirstLog Visit.Reaches
      ((Session.start twoDirectories : Session .standard).visits severed)
      (logPlace ["home", "b"]) := by
    intro first
    have opening := (first.of_not_setsUpLog rfl).of_not_setsUpLog rfl
    have same : logPlace ["home", "b"] = logPlace ["home", "a"] :=
      opening.eq_of_reaches ⟨⟨rfl, by decide +kernel⟩, by decide +kernel⟩
    exact absurd same (by decide)
  have written : ((Session.start twoDirectories : Session .standard).after
      severed).volume.text (logPlace ["home", "b"]) ≠
        twoDirectories.text (logPlace ["home", "b"]) := by
    decide +kernel
  exact written (claimed.kept _ other)

/-- Not every log that could stand in an existing directory is opened, nor is
it always the first of them that is written. -/
theorem not_footprint_of_reached :
    ¬ Footprint (@Visit.Reaches .standard) Visit.Reaches
        ⟨["home"], [], []⟩ (overlong 4080) ∧
      ¬ Footprint (@Visit.Reaches .standard) Visit.Reaches
        twoDirectories severed := by
  constructor
  · exact not_footprint_overlong (by decide) (by decide)
  · exact not_footprint_severed

end WindowedLauncher.Logging
