import Mathlib.Data.List.Basic
import WindowedLauncher.Proofs.ChildLife

/-!
# The whole life of a child process

A child process is started from three strings, asked any number of questions,
and released.  Each question is one step: it makes the same calls and has the
same answer wherever it stands among the others (`ask_eq`), so a list of
questions makes the calls of each in turn (`askAll_eq`).  With the start before
them and the release behind them this is the whole trace of a child
(`lifeCycle_calls`).
-/

namespace WindowedLauncher

/-! ## Strings with a NUL inside -/

namespace WideString

/-- The first NUL of a string stands at a place that is not the last. -/
structure NulInside (string : WideString) (position : Nat) : Prop where
  first : string.findIdx? (· == 0) = some position
  behind : position + 1 ≠ string.length

/-- The first of some strings with a NUL inside has it at the given place. -/
inductive FirstNulInside : List WideString → Nat → Prop where
  | here
      {string : WideString} {rest : List WideString} {position : Nat}
      (inside : string.NulInside position) :
      FirstNulInside (string :: rest) position
  | later
      {string : WideString} {rest : List WideString} {position : Nat}
      (clean : ∀ place, ¬ string.NulInside place)
      (first : FirstNulInside rest position) :
      FirstNulInside (string :: rest) position

theorem exists_firstNulInside
    {strings : List WideString}
    (any : ∃ string ∈ strings, ∃ place, string.NulInside place) :
    ∃ position, FirstNulInside strings position := by
  induction strings with
  | nil => simp at any
  | cons string rest ih =>
      by_cases inside : ∃ place, string.NulInside place
      · rcases inside with ⟨place, inside⟩
        exact ⟨place, .here inside⟩
      · rw [List.exists_mem_cons_iff, or_iff_right inside] at any
        rcases ih any with ⟨position, first⟩
        exact ⟨position, .later (not_exists.mp inside) first⟩

theorem NulInside.terminated_eq
    {string : WideString} {position : Nat}
    (inside : string.NulInside position) :
    string.terminated = .error position := by
  rw [terminated, inside.first]
  exact if_neg inside.behind

/-- A string without a NUL inside is handed over up to its first NUL. -/
theorem terminated_of_not_nulInside
    {string : WideString} (clean : ∀ place, ¬ string.NulInside place) :
    string.terminated = .ok string.untilNul := by
  have cut : string.untilNul = string.take (string.findIdx (· == 0)) := by
    rw [untilNul, List.takeWhile_eq_take_findIdx_not]
    simp only [bne, Bool.not_not]
  rw [terminated, cut]
  cases found : string.findIdx? (· == 0) with
  | none =>
      rw [List.findIdx?_eq_none_iff_findIdx_eq] at found
      rw [found, List.take_length]
  | some position =>
      have last : position + 1 = string.length := by
        by_contra behind
        exact clean position ⟨found, behind⟩
      rw [List.findIdx?_eq_some_iff_findIdx_eq] at found
      rw [found.2]
      exact if_pos last

end WideString

namespace ChildProcess

open WideString

section Start

variable {application commandLine currentDirectory : WideString}

/-- A NUL inside a string is refused, with its place. -/
theorem handedOver_of_nulInside
    {string : WideString} {position : Nat}
    (inside : string.NulInside position) :
    handedOver string = .error (.interiorNul position) := by
  rw [handedOver, inside.terminated_eq]
  rfl

theorem handedOver_of_clean
    {string : WideString} (clean : ∀ place, ¬ string.NulInside place) :
    handedOver string = .ok string.untilNul := by
  rw [handedOver, terminated_of_not_nulInside clean]
  rfl

/-- Of the three strings the first that cannot be handed over decides. -/
theorem handOver_of_firstNulInside
    {position : Nat}
    (first : FirstNulInside [application, commandLine, currentDirectory]
      position) :
    handOver application commandLine currentDirectory =
      .error (.interiorNul position) := by
  rw [handOver]
  rcases first with inside | ⟨clean, inside | ⟨alsoClean, inside | ⟨-, none⟩⟩⟩
  · rw [handedOver_of_nulInside inside]
    rfl
  · rw [handedOver_of_clean clean, handedOver_of_nulInside inside]
    rfl
  · rw [handedOver_of_clean clean, handedOver_of_clean alsoClean,
      handedOver_of_nulInside inside]
    rfl
  · cases none

theorem handOver_of_clean
    (clean : ∀ string ∈ [application, commandLine, currentDirectory],
      ∀ place, ¬ string.NulInside place) :
    handOver application commandLine currentDirectory =
      .ok (application.untilNul, commandLine.untilNul,
        currentDirectory.untilNul) := by
  rw [handOver, handedOver_of_clean (clean application (by simp)),
    handedOver_of_clean (clean commandLine (by simp)),
    handedOver_of_clean (clean currentDirectory (by simp))]
  rfl

end Start

/-! ## Questions -/

/-- The answer to a question about a child, however often it is asked. -/
def answer (host : Host) (child : ChildProcess) : Query → Answer
  | .id => .id child.id
  | .exitCode => .exitCode host.waitOutcome

/-- The calls that a question takes. -/
def queryCalls (host : Host) (child : ChildProcess) : Query → List Call
  | .id => []
  | .exitCode => host.waitCalls child.process

/-- A query makes its own calls, and its answer does not hang on what was asked
before. -/
theorem ask_eq (host : Host) (child : ChildProcess) (query : Query) :
    (child.ask host query).value = child.answer host query ∧
      (child.ask host query).calls = child.queryCalls host query := by
  cases query with
  | id => exact ⟨rfl, rfl⟩
  | exitCode =>
      constructor
      · rw [ask, Traced.value_map, value_exitCode]
        rfl
      · rw [ask, Traced.calls_map, calls_exitCode]
        rfl

theorem askAll_eq
    (host : Host) (child : ChildProcess) (queries : List Query) :
    (child.askAll host queries).value = queries.map (child.answer host) ∧
      (child.askAll host queries).calls =
        queries.flatMap (child.queryCalls host) := by
  induction queries with
  | nil => exact ⟨rfl, rfl⟩
  | cons query queries ih =>
      rcases child.ask_eq host query with ⟨answered, called⟩
      constructor
      · simp [askAll, answered, ih.1]
      · simp [askAll, called, ih.2]

/-! ## Whole lives -/

/-- What is asked of the system to start a child from three strings. -/
def startRequest (application commandLine currentDirectory : WideString) :
    ProcessRequest where
  application := application.untilNul
  commandLine := commandLine.untilNul
  currentDirectory := currentDirectory.untilNul
  inheritHandles := false
  flags := Host.createNoWindow

section LifeCycle

variable {host : Host} {application commandLine currentDirectory : WideString}
  {strings : WideString × WideString × WideString} {queries : List Query}

theorem lifeCycle_of_handOver_error
    {fault : Fault}
    (refused : handOver application commandLine currentDirectory =
      .error fault) :
    lifeCycle host application commandLine currentDirectory queries =
      pure (.error fault) := by
  rw [lifeCycle, start_of_handOver_error host refused]
  rfl

/-- A refused request is the only call. -/
theorem lifeCycle_of_creation_error
    (taken : handOver application commandLine currentDirectory = .ok strings)
    {error : SystemError} (refused : host.creation = .error error) :
    (lifeCycle host application commandLine currentDirectory queries).value =
        .error (.system error) ∧
      (lifeCycle host application commandLine currentDirectory
        queries).calls =
        [.createProcess ⟨strings.1, strings.2.1, strings.2.2, false,
          Host.createNoWindow⟩] := by
  rcases start_of_handOver_ok host taken with ⟨started, asked⟩
  rw [refused] at started
  simp [lifeCycle, started, asked, Except.mapError, Except.map]

/-- A child is created, queried and closed. -/
theorem lifeCycle_of_creation_ok
    (taken : handOver application commandLine currentDirectory = .ok strings)
    {information : ProcessInformation}
    (created : host.creation = .ok information) :
    (lifeCycle host application commandLine currentDirectory queries).value =
        .ok (queries.map (answer host (.ofInformation information))) ∧
      (lifeCycle host application commandLine currentDirectory
        queries).calls =
        .createProcess ⟨strings.1, strings.2.1, strings.2.2, false,
            Host.createNoWindow⟩ ::
          (queries.flatMap (queryCalls host (.ofInformation information)) ++
            closeCalls (.ofInformation information)) := by
  rcases start_of_handOver_ok host taken with ⟨started, asked⟩
  rw [created] at started
  rcases askAll_eq host (.ofInformation information) queries with
    ⟨answered, called⟩
  simp [lifeCycle, started, asked, Except.mapError, Except.map, answered,
    called, calls_release]

end LifeCycle

/-- A string with a NUL inside keeps a child from being asked for, and leaves
no trace but the place of the first such NUL.  A child that cannot be created
has been asked for and nothing else.  A child that was created is waited for
and asked for its exit code once for each question about that, in order, and
then given up; every question of a kind has the same answer. -/
theorem lifeCycle_calls
    (host : Host) (application commandLine currentDirectory : WideString)
    (queries : List Query) :
    ((∃ string ∈ [application, commandLine, currentDirectory],
        ∃ place, string.NulInside place) →
      ∃ position,
        FirstNulInside [application, commandLine, currentDirectory] position ∧
        lifeCycle host application commandLine currentDirectory queries =
          pure (.error (.interiorNul position))) ∧
    ((∀ string ∈ [application, commandLine, currentDirectory],
        ∀ place, ¬ string.NulInside place) →
      (∀ error, host.creation = .error error →
        (lifeCycle host application commandLine currentDirectory
            queries).value = .error (.system error) ∧
          (lifeCycle host application commandLine currentDirectory
            queries).calls =
            [.createProcess
              (startRequest application commandLine currentDirectory)]) ∧
      (∀ information, host.creation = .ok information →
        (lifeCycle host application commandLine currentDirectory
            queries).value =
            .ok (queries.map (answer host (.ofInformation information))) ∧
          (lifeCycle host application commandLine currentDirectory
            queries).calls =
            .createProcess
                (startRequest application commandLine currentDirectory) ::
              (queries.flatMap
                  (queryCalls host (.ofInformation information)) ++
                closeCalls (.ofInformation information)))) := by
  constructor
  · intro any
    rcases exists_firstNulInside any with ⟨position, first⟩
    have refused := handOver_of_firstNulInside first
    exact ⟨position, first, lifeCycle_of_handOver_error refused⟩
  · intro clean
    have taken := handOver_of_clean clean
    constructor
    · intro error refused
      exact lifeCycle_of_creation_error taken refused
    · intro information created
      exact lifeCycle_of_creation_ok taken created

/-- A host on which a child runs whose thread handle names nothing. -/
def sampleHost : Host where
  imagePath := .error 2
  commandLine := []
  arguments := .error 2
  creation := .ok ⟨7, 0, 9⟩
  wait := ⟨0, 0⟩
  exitCode := .ok 3
  closeFailures := [(7, ⟨6, ""⟩)]

/-- A child with one handle to close is asked for its status twice. -/
theorem lifeCycle_calls_sampleHost :
    (lifeCycle sampleHost (ofString "t\x00") (ofString "t a") (ofString "d")
        [.exitCode, .id, .exitCode]).value =
        .ok [.exitCode (.ok 3), .id 9, .exitCode (.ok 3)] ∧
      (lifeCycle sampleHost (ofString "t\x00") (ofString "t a") (ofString "d")
        [.exitCode, .id, .exitCode]).calls =
        [.createProcess ⟨ofString "t", ofString "t a", ofString "d", false,
            Host.createNoWindow⟩,
          .waitForSingleObject 7 Host.infinite, .getExitCodeProcess 7,
          .waitForSingleObject 7 Host.infinite, .getExitCodeProcess 7,
          .closeHandle 7] := by
  have clean : ∀ string ∈ [ofString "t\x00", ofString "t a", ofString "d"],
      ∀ place, ¬ string.NulInside place := by
    intro string member place inside
    have atEnd : ∀ string ∈
        [ofString "t\x00", ofString "t a", ofString "d"],
        (string.findIdx? (· == 0)).all (· + 1 = string.length) = true := by
      decide
    have last := atEnd string member
    rw [inside.first] at last
    exact inside.behind (by simpa using last)
  exact ((lifeCycle_calls sampleHost _ _ _ _).2 clean).2 _ rfl

end ChildProcess

end WindowedLauncher
