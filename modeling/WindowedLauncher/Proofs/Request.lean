import Mathlib.Data.List.Basic
import WindowedLauncher.Proofs.Endings

/-!
# What a target is asked for with

Three strings are handed over to start a target, and they share their content:
the directory stands in the path of the target, and that path in the command
line.  A NUL in the directory is therefore met first in the path of the
target.  A NUL in an argument is met in the command line, and is refused
unless it is the very last unit of it; there it serves as the terminator, and
the command line is taken without it (`isTaken_ofArguments_iff`).

The main theorem, `run_requests`, says for every run whether the target is
asked for, with what, and what comes of it otherwise.
-/

namespace WindowedLauncher

/-! ## Strings with one NUL at the end -/

namespace WideString

/-- A string is taken for a content: it is that content, or that content and
one NUL behind it. -/
structure IsTaken (string content : WideString) : Prop where
  clean : 0 ∉ content
  whole : string = content ∨ string = content ++ [0]

theorem findIdx?_append_nul
    {before : WideString} (clean : 0 ∉ before) (after : WideString) :
    (before ++ 0 :: after).findIdx? (· == 0) = some before.length := by
  have unfound : before.findIdx? (· == 0) = none := by
    rw [List.findIdx?_eq_none_iff]
    intro unit member
    rw [beq_eq_false_iff_ne]
    rintro rfl
    exact clean member
  simp [List.findIdx?_append, unfound, List.findIdx?_cons]

/-- The first NUL decides, together with what stands behind it. -/
theorem terminated_append_nul
    {before : WideString} (clean : 0 ∉ before) (after : WideString) :
    terminated (before ++ 0 :: after) =
      if after = [] then .ok before else .error before.length := by
  rw [terminated, findIdx?_append_nul clean after]
  cases after <;> simp

theorem IsTaken.terminated_eq
    {string content : WideString} (taken : IsTaken string content) :
    string.terminated = .ok content := by
  rcases taken.whole with rfl | rfl
  · exact terminated_of_not_mem taken.clean
  · simpa using terminated_append_nul taken.clean []

/-- A string that is not taken is refused with the place of its first NUL. -/
theorem terminated_of_not_isTaken
    {string : WideString} (refused : ∀ content, ¬ IsTaken string content) :
    ∃ position, string.findIdx? (· == 0) = some position ∧
      string.terminated = .error position := by
  by_cases nul : (0 : UInt16) ∈ string
  · obtain ⟨before, after, rfl, clean⟩ := List.eq_append_cons_of_mem nul
    have more : after ≠ [] := by
      rintro rfl
      exact refused before ⟨clean, Or.inr rfl⟩
    refine ⟨before.length, findIdx?_append_nul clean after, ?_⟩
    rw [terminated_append_nul clean, if_neg more]
  · exact absurd ⟨nul, Or.inl rfl⟩ (refused string)

end WideString

/-! ## Command lines with a mark at the end -/

namespace CommandLine

section Mark

variable {α : Type} [Alphabet α] [DecidableEq α] {mark : α}
  {program : List α} {arguments : List (List α)} {content : List α}

/-- The only mark among the arguments is the last symbol of the last one,
which stands on a command line as it is. -/
def EndIn (mark : α) (arguments : List (List α)) : Prop :=
  ∃ earlier text,
    arguments = earlier ++ [text ++ [mark]] ∧
      (∀ argument ∈ earlier, mark ∉ argument) ∧ mark ∉ text ∧
        ∀ symbol ∈ text ++ [mark], needsQuoting symbol = false

theorem isWrapped_concat_eq_false
    {text : List α} {last : α}
    (plain : ∀ symbol ∈ text ++ [last], needsQuoting symbol = false) :
    isWrapped (text ++ [last]) = false := by
  have none : (text ++ [last]).any needsQuoting = false := by
    rw [List.any_eq_false]
    intro symbol member
    simp [plain symbol member]
  simp [isWrapped, none]

/-- What is written in quotes ends in a double quote. -/
theorem getLast?_quote_of_isWrapped
    {argument : List α} (wrapped : isWrapped argument = true) :
    (quote argument).getLast? = some doubleQuote := by
  simp [quote_of_isWrapped wrapped, List.getLast?_cons]

/-- If the arguments end in a mark that is nowhere else, so does their line. -/
theorem EndIn.exists_ofArguments_eq
    (notQuote : mark ≠ doubleQuote) (notBackslash : mark ≠ backslash)
    (notSpace : mark ≠ space) (clean : mark ∉ program)
    (ends : EndIn mark arguments) :
    ∃ content, mark ∉ content ∧
      ofArguments program arguments = content ++ [mark] := by
  obtain ⟨earlier, text, rfl, earlierClean, textClean, plain⟩ := ends
  refine ⟨ofArguments program earlier ++ space :: text, ?_, ?_⟩
  · rw [List.mem_append, List.mem_cons,
      mem_ofArguments_iff notQuote notBackslash notSpace]
    rintro ((inProgram | ⟨argument, member, inside⟩) | isSpace | inText)
    · exact clean inProgram
    · exact earlierClean argument member inside
    · exact notSpace isSpace
    · exact textClean inText
  · rw [ofArguments_append_singleton,
      quote_of_not_isWrapped (isWrapped_concat_eq_false plain)]
    simp

/-- Only an argument that stands as it is brings a mark to the end. -/
theorem EndIn.of_ofArguments_eq
    (notQuote : mark ≠ doubleQuote) (notBackslash : mark ≠ backslash)
    (notSpace : mark ≠ space) (clean : mark ∉ program)
    (before : mark ∉ content)
    (line : ofArguments program arguments = content ++ [mark]) :
    EndIn mark arguments := by
  rcases List.eq_nil_or_concat' arguments with rfl | ⟨earlier, last, rfl⟩
  · -- Without arguments the mark would stand in the program.
    have member : mark ∈ ofArguments program [] := by simp [line]
    rw [mem_ofArguments_iff notQuote notBackslash notSpace] at member
    simp [clean] at member
  · rw [ofArguments_append_singleton] at line
    have plain : isWrapped last = false := by
      by_contra wrapped
      have ending := congrArg List.getLast? line
      rw [List.getLast?_append, List.getLast?_cons,
        getLast?_quote_of_isWrapped (by simpa using wrapped)] at ending
      simp [Ne.symm notQuote] at ending
    obtain ⟨nonempty, solid⟩ := (isWrapped_eq_false_iff last).mp plain
    rcases List.eq_nil_or_concat' last with rfl | ⟨text, symbol, rfl⟩
    · exact absurd rfl nonempty
    · rw [quote_of_not_isWrapped plain, ← List.cons_append,
        ← List.append_assoc, List.append_singleton_inj] at line
      obtain ⟨rfl, rfl⟩ := line
      rw [List.mem_append, mem_ofArguments_iff notQuote notBackslash notSpace,
        List.mem_cons] at before
      refine ⟨earlier, text, rfl, ?_, ?_, ?_⟩
      · intro argument member inside
        exact before (Or.inl (Or.inr ⟨argument, member, inside⟩))
      · intro inside
        exact before (Or.inr (Or.inr inside))
      · intro symbol member
        simp [needsQuoting, solid symbol member]

end Mark

end CommandLine

/-! ## Requests for a process -/

/-- The child that a call asks for. -/
def Call.request? : Call → Option ProcessRequest
  | .createProcess request => some request
  | _ => none

theorem request?_of_concern_child
    {call : Call} (child : call.concern = .child) : call.request? = none := by
  cases call <;> first | rfl | exact absurd child (by simp [Call.concern])

/-- The requests for a process among the calls of a computation. -/
def Traced.requests {α : Type} (traced : Traced α) : List ProcessRequest :=
  traced.calls.filterMap Call.request?

namespace Launcher

open ChildProcess CommandLine

/-- No NUL keeps a target from being asked for. -/
structure CanBeAskedFor
    (directory : InstallDirectory) (argv : List WideString) : Prop where
  directory : 0 ∉ directory.path
  arguments :
    (∀ argument ∈ argv.tail, 0 ∉ argument) ∨ EndIn 0 argv.tail

/-- A request asks for the target of a directory with the arguments after
argument 0.  A NUL at the end of the command line is left away. -/
structure AsksFor
    (directory : InstallDirectory) (argv : List WideString)
    (request : ProcessRequest) : Prop where
  application :
    request.application = directory.path ++ WideString.ofString "\\nortools.exe"
  commandLine :
    WideString.IsTaken (ofArguments directory.target argv.tail)
      request.commandLine
  currentDirectory : request.currentDirectory = directory.path
  inheritHandles : request.inheritHandles = false
  flags : request.flags = Host.createNoWindow

variable {host : Host} {directory : InstallDirectory}
  {argv arguments : List WideString}

/-- A command line is taken if its arguments hold no NUL, or end in one. -/
theorem isTaken_ofArguments_iff (noNul : 0 ∉ directory.path) :
    (∃ content,
        WideString.IsTaken (ofArguments directory.target arguments) content) ↔
      (∀ argument ∈ arguments, 0 ∉ argument) ∨ EndIn 0 arguments := by
  have notQuote : (0 : UInt16) ≠ doubleQuote := by decide
  have notBackslash : (0 : UInt16) ≠ backslash := by decide
  have notSpace : (0 : UInt16) ≠ space := by decide
  have target : 0 ∉ directory.target :=
    mt (nul_mem_target_iff directory).mp noNul
  have inLine : 0 ∈ ofArguments directory.target arguments ↔
      ∃ argument ∈ arguments, 0 ∈ argument := by
    rw [mem_ofArguments_iff notQuote notBackslash notSpace]
    exact or_iff_right target
  constructor
  · rintro ⟨content, clean, same | ended⟩
    · left
      rw [← same, inLine] at clean
      simpa using clean
    · right
      exact .of_ofArguments_eq notQuote notBackslash notSpace target clean ended
  · rintro (plain | ends)
    · have clean : 0 ∉ ofArguments directory.target arguments := by
        rw [inLine]
        simpa using plain
      exact ⟨_, clean, Or.inl rfl⟩
    · obtain ⟨content, clean, ended⟩ :=
        ends.exists_ofArguments_eq notQuote notBackslash notSpace target
      exact ⟨content, clean, Or.inr ended⟩

/-! ## What is handed over -/

theorem handOver_of_isTaken
    (noNul : 0 ∉ directory.path) {content : WideString}
    (taken : WideString.IsTaken
      (ofArguments directory.target arguments) content) :
    handOver directory.target (ofArguments directory.target arguments)
        directory.path =
      .ok (directory.target, content, directory.path) := by
  have target : 0 ∉ directory.target :=
    mt (nul_mem_target_iff directory).mp noNul
  rw [handOver, handedOver, handedOver, handedOver, taken.terminated_eq,
    WideString.terminated_of_not_mem target,
    WideString.terminated_of_not_mem noNul]
  rfl

/-- The string that keeps a target from being asked for: its path if the
directory holds a NUL, and the command line otherwise. -/
def refusedString (directory : InstallDirectory) (argv : List WideString) :
    WideString :=
  if 0 ∈ directory.path then directory.target
  else ofArguments directory.target argv.tail

/-- Where the target cannot be asked for, the first string with a NUL inside is
refused, at its first NUL. -/
theorem handOver_of_not_canBeAskedFor
    (refused : ¬ CanBeAskedFor directory argv) :
    ∃ position,
      (refusedString directory argv).findIdx? (· == 0) = some position ∧
        handOver directory.target (ofArguments directory.target argv.tail)
          directory.path = .error (.interiorNul position) := by
  by_cases nul : 0 ∈ directory.path
  · have found : directory.path.findIdx? (· == 0) =
        some (directory.path.findIdx (· == 0)) :=
      List.findIdx?_eq_some_of_exists ⟨0, nul, beq_self_eq_true 0⟩
    refine ⟨_, ?_, handOver_request_of_mem nul argv⟩
    rw [refusedString, if_pos nul, InstallDirectory.target,
      List.findIdx?_append, found, Option.some_or]
  · have untaken : ∀ content,
        ¬ WideString.IsTaken
          (ofArguments directory.target argv.tail) content := by
      intro content taken
      exact refused ⟨nul, (isTaken_ofArguments_iff nul).mp ⟨content, taken⟩⟩
    obtain ⟨position, found, unterminated⟩ :=
      WideString.terminated_of_not_isTaken untaken
    refine ⟨position, ?_, ?_⟩
    · rw [refusedString, if_neg nul, found]
    · have target : 0 ∉ directory.target :=
        mt (nul_mem_target_iff directory).mp nul
      rw [handOver, handedOver, handedOver, unterminated,
        WideString.terminated_of_not_mem target]
      rfl

/-! ## What is asked for -/

/-- Strings that can be handed over are asked to be started, and nothing is
asked for after them. -/
theorem requests_run_of_handOver_ok
    {strings : WideString × WideString × WideString}
    (taken : handOver directory.target (commandLine directory argv)
      directory.path = .ok strings) :
    (run host directory argv).requests =
      [⟨strings.1, strings.2.1, strings.2.2, false, Host.createNoWindow⟩] := by
  obtain ⟨started, asked⟩ := start_of_handOver_ok host taken
  cases creation : host.creation with
  | error error =>
      rw [creation] at started
      obtain ⟨-, calls⟩ := run_of_start_error started
      rw [Traced.requests, calls, asked]
      rfl
  | ok information =>
      rw [creation] at started
      obtain ⟨-, calls⟩ := run_of_start_ok started
      have nothing : (host.waitCalls information.process ++
          closeCalls (.ofInformation information)).filterMap
            Call.request? = [] := by
        rw [List.filterMap_eq_nil_iff, List.forall_mem_append]
        constructor
        · intro call member
          exact request?_of_concern_child (concern_of_mem_waitCalls member)
        · intro call member
          exact request?_of_concern_child (concern_of_mem_closeCalls member)
      rw [Traced.requests, calls, asked, List.filterMap_append]
      exact congrArg _ nothing

/-- A run asks for its target once or not at all.  It asks just when no NUL
stands in the way, and then for the target of the directory with the arguments
after argument 0; otherwise it makes no call, and fails with the place of the
first NUL in the string that was refused. -/
theorem run_requests
    (host : Host) (directory : InstallDirectory) (argv : List WideString) :
    ((∃ request, (run host directory argv).requests = [request]) ↔
      CanBeAskedFor directory argv) ∧
    (∀ request ∈ (run host directory argv).requests,
      AsksFor directory argv request) ∧
    (¬ CanBeAskedFor directory argv →
      (run host directory argv).calls = [] ∧
      ∃ position,
        (refusedString directory argv).findIdx? (· == 0) = some position ∧
        (run host directory argv).value =
          .error
            (.start directory.target.display (.interiorNul position))) := by
  by_cases free : CanBeAskedFor directory argv
  · obtain ⟨content, taken⟩ :=
      (isTaken_ofArguments_iff free.directory).mpr free.arguments
    have asked : (run host directory argv).requests = _ :=
      requests_run_of_handOver_ok (handOver_of_isTaken free.directory taken)
    rw [asked]
    refine ⟨iff_of_true ⟨_, rfl⟩ free, ?_, fun refused => absurd free refused⟩
    rw [List.forall_mem_singleton]
    exact ⟨rfl, taken, rfl, rfl, rfl⟩
  · obtain ⟨position, found, refused⟩ := handOver_of_not_canBeAskedFor free
    obtain ⟨value, calls⟩ : (run host directory argv).value = _ ∧
        (run host directory argv).calls = [] :=
      run_of_handOver_error refused
    have unasked : (run host directory argv).requests = [] := by
      rw [Traced.requests, calls, List.filterMap_nil]
    rw [unasked]
    refine ⟨iff_of_false (by simp) free, by simp, ?_⟩
    intro
    exact ⟨calls, position, found, value⟩

end Launcher

end WindowedLauncher
