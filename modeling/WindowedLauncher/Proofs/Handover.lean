import WindowedLauncher.Launcher
import WindowedLauncher.Proofs.Written

/-!
# Strings that are handed over

A string that holds a NUL before its last unit is refused.  The arguments of a
process hold none, and quoting adds none, so a NUL among the strings by which
a target is started comes from the install directory.  It then stands in the
middle of the path of the target, the first string that is looked at
(`handOver_request_of_mem`).
-/

namespace WindowedLauncher

/-! ## Single strings -/

namespace WideString

theorem not_mem_untilNul (string : WideString) : 0 ∉ string.untilNul := by
  intro member
  have stopped := List.mem_takeWhile_imp member
  exact absurd stopped (by decide)

theorem terminated_of_not_mem
    {string : WideString} (noNul : 0 ∉ string) :
    string.terminated = .ok string := by
  have unfound : string.findIdx? (· == 0) = none := by
    rw [List.findIdx?_eq_none_iff]
    intro unit member
    rw [beq_eq_false_iff_ne]
    rintro rfl
    exact noNul member
  rw [terminated, unfound]

/-- A NUL that has anything behind it is refused with its position. -/
theorem terminated_append_of_mem
    {string rest : WideString} (nul : 0 ∈ string) (more : rest ≠ []) :
    terminated (string ++ rest) =
      .error (string.findIdx (· == 0)) := by
  have found : string.findIdx? (· == 0) =
      some (string.findIdx (· == 0)) :=
    List.findIdx?_eq_some_of_exists ⟨0, nul, beq_self_eq_true 0⟩
  have inside : string.findIdx (· == 0) < string.length :=
    List.findIdx_lt_length_of_exists ⟨0, nul, beq_self_eq_true 0⟩
  have behind : 0 < rest.length := List.length_pos_iff.mpr more
  rw [terminated, List.findIdx?_append, found, Option.some_or]
  refine if_neg ?_
  rw [List.length_append]
  omega

end WideString

/-! ## Command lines -/

namespace CommandLine

variable {α : Type} [Alphabet α] [DecidableEq α] {symbol : α}

/-- Escaping adds nothing but backslashes. -/
theorem mem_escape_iff
    (notQuote : symbol ≠ doubleQuote) (notBackslash : symbol ≠ backslash)
    (written : α) :
    symbol ∈ escape written ↔ symbol = written := by
  by_cases isQuote : written = doubleQuote
  · subst isQuote
    simp [notQuote, notBackslash]
  · rw [escape_of_ne isQuote, List.mem_singleton]

/-- Quoting adds double quotes and backslashes, and nothing else. -/
theorem mem_quote_iff
    (notQuote : symbol ≠ doubleQuote) (notBackslash : symbol ≠ backslash)
    (argument : List α) :
    symbol ∈ quote argument ↔ symbol ∈ argument := by
  cases wrapped : isWrapped argument with
  | true =>
      rw [quote_of_isWrapped wrapped, List.mem_cons, List.mem_append,
        List.mem_singleton, List.mem_flatMap]
      simp [mem_escape_iff notQuote notBackslash, notQuote]
  | false => rw [quote_of_not_isWrapped wrapped]

/-- A line holds what its parts hold, and quotes, backslashes and spaces. -/
theorem mem_ofArguments_iff
    (notQuote : symbol ≠ doubleQuote) (notBackslash : symbol ≠ backslash)
    (notSpace : symbol ≠ space)
    (program : List α) (arguments : List (List α)) :
    symbol ∈ ofArguments program arguments ↔
      symbol ∈ program ∨ ∃ argument ∈ arguments, symbol ∈ argument := by
  rw [ofArguments, List.mem_append, mem_quote_iff notQuote notBackslash,
    List.mem_flatMap]
  simp [mem_quote_iff notQuote notBackslash, notSpace]

end CommandLine

/-! ## The request for a target -/

namespace Launcher

open ChildProcess

/-- The strings by which the target of a directory is started, in the order in
which they are handed over. -/
def requestStrings (directory : InstallDirectory) (argv : List WideString) :
    List WideString :=
  [directory.target, commandLine directory argv, directory.path]

theorem nul_mem_target_iff (directory : InstallDirectory) :
    0 ∈ directory.target ↔ 0 ∈ directory.path := by
  have plainName : (0 : UInt16) ∉
      WideString.ofString ("\\" ++ InstallDirectory.targetName) := by
    decide
  rw [InstallDirectory.target, List.mem_append]
  exact or_iff_left plainName

/-- Only the directory can bring a NUL into the line of plain arguments. -/
theorem nul_mem_commandLine_iff
    (directory : InstallDirectory)
    {argv : List WideString} (plain : ∀ argument ∈ argv, 0 ∉ argument) :
    0 ∈ commandLine directory argv ↔ 0 ∈ directory.path := by
  rw [commandLine, CommandLine.mem_ofArguments_iff (by decide) (by decide)
    (by decide), nul_mem_target_iff]
  refine or_iff_left ?_
  rintro ⟨argument, member, nul⟩
  exact plain argument (List.mem_of_mem_tail member) nul

/-- A NUL in any string of a request comes from the install directory. -/
theorem nul_mem_request_iff
    (directory : InstallDirectory)
    {argv : List WideString} (plain : ∀ argument ∈ argv, 0 ∉ argument) :
    (∃ string ∈ requestStrings directory argv, 0 ∈ string) ↔
      0 ∈ directory.path := by
  simp [requestStrings, nul_mem_target_iff,
    nul_mem_commandLine_iff directory plain]

theorem handOver_request_of_not_mem
    {directory : InstallDirectory} (noNul : 0 ∉ directory.path)
    {argv : List WideString} (plain : ∀ argument ∈ argv, 0 ∉ argument) :
    handOver directory.target (commandLine directory argv) directory.path =
      .ok (directory.target, commandLine directory argv,
        directory.path) := by
  have target : 0 ∉ directory.target :=
    mt (nul_mem_target_iff directory).mp noNul
  have line : 0 ∉ commandLine directory argv :=
    mt (nul_mem_commandLine_iff directory plain).mp noNul
  rw [handOver, handedOver, handedOver, handedOver,
    WideString.terminated_of_not_mem target,
    WideString.terminated_of_not_mem line,
    WideString.terminated_of_not_mem noNul]
  rfl

/-- A NUL in the directory is met inside the path of the target. -/
theorem handOver_request_of_mem
    {directory : InstallDirectory} (nul : 0 ∈ directory.path)
    (argv : List WideString) :
    handOver directory.target (commandLine directory argv) directory.path =
      .error (.interiorNul (directory.path.findIdx (· == 0))) := by
  have named : WideString.ofString
      ("\\" ++ InstallDirectory.targetName) ≠ [] := by
    decide
  rw [handOver, handedOver, InstallDirectory.target,
    WideString.terminated_append_of_mem nul named]
  rfl

end Launcher

end WindowedLauncher
