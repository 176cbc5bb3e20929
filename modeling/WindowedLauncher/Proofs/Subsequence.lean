import WindowedLauncher.Proofs.Residue
import WindowedLauncher.WideString

/-!
# What is read is a subsequence of the line

A scanner never writes a character that it has not just taken: what it has
read grows with each step at most by the character of that step
(`flatten_result_step_sublist`).  Argument 0 leaves out at most the double
quotes around it (`exists_line_eq`).  The arguments of a line, one behind the
other, are therefore a subsequence of it, and since no ordinary character is
left out on the way, all that is missing is syntax
(`flatten_split_decode`).
-/

namespace WindowedLauncher.CommandLine

open WideString

/-! ## What is read behind argument 0 -/

namespace Scanner

/-- A double quote takes backslashes away, and puts at most itself there. -/
theorem complete_takeDoubleQuote_sublist (fragment : Fragment) :
    fragment.takeDoubleQuote.complete.Sublist
      (fragment.complete ++ ['"']) := by
  have halved : (List.replicate (fragment.backslashes / 2) '\\').Sublist
      (List.replicate fragment.backslashes '\\') :=
    (List.replicate_sublist_replicate '\\').mpr (Nat.div_le_self _ 2)
  have kept : (fragment.text ++
      List.replicate (fragment.backslashes / 2) '\\').Sublist
        fragment.complete :=
    halved.append_left fragment.text
  have dropped : (fragment.text ++
      List.replicate (fragment.backslashes / 2) '\\').Sublist
        (fragment.complete ++ ['"']) :=
    kept.trans (List.sublist_append_left _ _)
  have added := kept.append_right ['"']
  rcases Nat.mod_two_eq_zero_or_one fragment.backslashes with even | odd
  · rw [Fragment.takeDoubleQuote_of_even even]
    cases fragment.quoting with
    | outside => simpa [Fragment.complete] using dropped
    | inside => simpa [Fragment.complete] using dropped
    | closed => simpa [Fragment.complete] using added
  · rw [Fragment.takeDoubleQuote_of_odd odd]
    simpa [Fragment.complete] using added

/-- A step reads its character, or leaves things out. -/
theorem flatten_result_step_sublist
    (scanner : Scanner) (character : Char) :
    (scanner.step character).result.flatten.Sublist
      (scanner.result.flatten ++ [character]) := by
  by_cases isQuote : character = '"'
  · subst isQuote
    rw [step_doubleQuote, flatten_result, flatten_result scanner,
      fragment_some, List.append_assoc]
    exact (complete_takeDoubleQuote_sublist scanner.fragment).append_left _
  · rcases scanner.flatten_result_step_of_ne isQuote with
      ⟨-, same⟩ | taken
    · rw [same]
      exact List.sublist_append_left _ _
    · exact taken ▸ List.Sublist.refl _

/-- Whatever has been read before, a text adds a subsequence of itself. -/
theorem flatten_result_run_sublist (scanner : Scanner) (text : List Char) :
    (scanner.run text).result.flatten.Sublist
      (scanner.result.flatten ++ text) := by
  induction text generalizing scanner with
  | nil => exact List.sublist_append_left _ _
  | cons character text ih =>
      have stepped :=
        (scanner.flatten_result_step_sublist character).append_right text
      rw [List.append_assoc, List.singleton_append] at stepped
      exact (ih (scanner.step character)).trans stepped

end Scanner

/-! ## Whole command lines -/

/-- Argument 0 and the text behind it are the line without the double quotes
around argument 0. -/
theorem exists_line_eq (line : List Char) :
    ∃ before behind : List Char,
      (∀ character ∈ before ++ behind, character = '"') ∧
        line = before ++ (programAndRest line).1 ++
          (behind ++ (programAndRest line).2) := by
  unfold programAndRest
  split
  next text =>
    have parts := List.takeWhile_append_dropWhile
      (p := fun character => decide (character ≠ '"')) (l := text)
    cases left : text.dropWhile (fun character => character ≠ '"') with
    | nil =>
        rw [left, List.append_nil] at parts
        refine ⟨['"'], [], by simp, ?_⟩
        simpa using parts.symm
    | cons closing rest =>
        have closes : closing = '"' := by
          have stopped := List.head?_dropWhile_not
            (fun character => decide (character ≠ '"')) text
          rw [left] at stopped
          simpa using stopped
        subst closes
        rw [left] at parts
        refine ⟨['"'], ['"'], by simp, ?_⟩
        simpa using parts.symm
  next line _ =>
    refine ⟨[], [], by simp, ?_⟩
    exact List.takeWhile_append_dropWhile.symm

theorem flatten_split (line : List Char) :
    (split line).flatten =
      (programAndRest line).1 ++
        (Scanner.start.run (programAndRest line).2).result.flatten := by
  rw [split_eq_scan, List.flatten_cons]

/-- What is read of a line stands in it, in that order. -/
theorem flatten_split_sublist (line : List Char) :
    (split line).flatten.Sublist line := by
  obtain ⟨before, behind, -, parts⟩ := exists_line_eq line
  have program := List.sublist_append_right before (programAndRest line).1
  have rest := List.sublist_append_right behind (programAndRest line).2
  have arguments :=
    Scanner.start.flatten_result_run_sublist (programAndRest line).2
  have whole := program.append (arguments.trans rest)
  rw [← parts] at whole
  rw [flatten_split]
  exact whole

theorem filter_of_quotes
    {quotes : List Char}
    (allQuotes : ∀ character ∈ quotes, character = '"') :
    quotes.filter isOrdinary = [] := by
  rw [List.filter_eq_nil_iff]
  intro character member
  rw [allQuotes character member]
  decide

theorem filter_flatten_split (line : List Char) :
    (split line).flatten.filter isOrdinary = line.filter isOrdinary := by
  obtain ⟨before, behind, quotes, parts⟩ := exists_line_eq line
  have arguments :
      (Scanner.start.run (programAndRest line).2).result.flatten.filter
          isOrdinary =
        (programAndRest line).2.filter isOrdinary :=
    Scanner.start.residue_run (programAndRest line).2
  rcases List.forall_mem_append.mp quotes with ⟨opening, closing⟩
  calc
    (split line).flatten.filter isOrdinary =
        (programAndRest line).1.filter isOrdinary ++
          (programAndRest line).2.filter isOrdinary := by
      rw [flatten_split, List.filter_append, arguments]
    _ = (before ++ (programAndRest line).1 ++
          (behind ++ (programAndRest line).2)).filter isOrdinary := by
      simp only [List.filter_append, filter_of_quotes opening,
        filter_of_quotes closing, List.nil_append]
    _ = line.filter isOrdinary := by
      rw [← parts]

/--
The arguments of a command line, argument 0 included, are a subsequence of
it, and hold all of its characters that are not blanks, double quotes or
backslashes.
-/
theorem flatten_split_decode (line : WideString) :
    (split (decode line)).flatten.Sublist (decode line) ∧
      (split (decode line)).flatten.filter isOrdinary =
        (decode line).filter isOrdinary :=
  ⟨flatten_split_sublist (decode line), filter_flatten_split (decode line)⟩

end WindowedLauncher.CommandLine
