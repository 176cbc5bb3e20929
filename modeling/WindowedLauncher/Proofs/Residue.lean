import WindowedLauncher.Proofs.Delivery

/-!
# What no reading loses

Blanks, double quotes and backslashes decide how a command line is read; all
other characters are only carried along.  A scanner takes each of them, once
and in order, in whichever state it is (`residue_run`), and so the `residue` of
the arguments is delivered whole (`residue_delivered`).
-/

namespace WindowedLauncher.CommandLine

/-- The characters that have no meaning of their own on a command line. -/
def isOrdinary (character : Char) : Bool :=
  !needsQuoting character && character ≠ backslash

/-- All ordinary characters of a list of arguments, in order. -/
def residue (arguments : List (List Char)) : List Char :=
  arguments.flatten.filter isOrdinary

theorem isOrdinary_of_isBlank
    {character : Char} (blank : isBlank character = true) :
    isOrdinary character = false := by
  simp [isOrdinary, needsQuoting, blank]

/-! ## What is read -/

namespace Scanner

/-- What has been read is what is finished and what is still open. -/
theorem flatten_result (scanner : Scanner) :
    scanner.result.flatten =
      scanner.finished.flatten ++ scanner.fragment.complete := by
  rw [result, fragment]
  cases scanner.current with
  | none => simp
  | some fragment => simp

/-- All but double quotes are taken as they are, or end an argument. -/
theorem flatten_result_step_of_ne
    (scanner : Scanner)
    {character : Char} (noQuote : character ≠ '"') :
    isBlank character = true ∧
        (scanner.step character).result.flatten =
          scanner.result.flatten ∨
      (scanner.step character).result.flatten =
        scanner.result.flatten ++ [character] := by
  by_cases ends : scanner.EndsAt character
  · refine Or.inl ⟨ends.1, ?_⟩
    rw [step_of_endsAt ends]
    simp [result]
  · right
    rw [step_of_not_endsAt ends, flatten_result, flatten_result scanner,
      fragment_some, scanner.fragment.complete_advance noQuote,
      List.append_assoc]

/-- A quote takes no ordinary character away. -/
theorem filter_complete_takeDoubleQuote (fragment : Fragment) :
    fragment.takeDoubleQuote.complete.filter isOrdinary =
      fragment.complete.filter isOrdinary := by
  have noBackslash : isOrdinary '\\' = false := by decide
  have noQuote : isOrdinary '"' = false := by decide
  rcases Nat.mod_two_eq_zero_or_one fragment.backslashes with even | odd
  · rw [Fragment.takeDoubleQuote_of_even even]
    cases fragment.quoting <;>
      simp [Fragment.complete, noBackslash, noQuote]
  · rw [Fragment.takeDoubleQuote_of_odd odd]
    simp [Fragment.complete, noBackslash, noQuote]

theorem residue_step (scanner : Scanner) (character : Char) :
    residue (scanner.step character).result =
      residue scanner.result ++ [character].filter isOrdinary := by
  by_cases isQuote : character = '"'
  · subst isQuote
    rw [residue, residue, step_doubleQuote, flatten_result,
      flatten_result scanner, fragment_some, List.filter_append,
      List.filter_append, filter_complete_takeDoubleQuote]
    exact (List.append_nil _).symm
  · rw [residue, residue]
    rcases scanner.flatten_result_step_of_ne isQuote with
      ⟨blank, same⟩ | taken
    · rw [same, List.filter_cons_of_neg
        (by simp [isOrdinary_of_isBlank blank])]
      exact (List.append_nil _).symm
    · rw [taken, List.filter_append]

/-- Whatever has been read before, a text adds its ordinary characters. -/
theorem residue_run (scanner : Scanner) (text : List Char) :
    residue (scanner.run text).result =
      residue scanner.result ++ text.filter isOrdinary := by
  induction text generalizing scanner with
  | nil => exact (List.append_nil _).symm
  | cons character text ih =>
      rw [run_cons, ih, residue_step, List.append_assoc,
        ← List.filter_append, List.singleton_append]

end Scanner

/-- Whatever is misread on the way, no ordinary character is lost. -/
theorem residue_delivered (arguments : List (List Char)) :
    residue (delivered arguments) = residue arguments := by
  rw [delivered, Scanner.residue_run, filter_written rfl rfl rfl]
  exact List.nil_append _

end WindowedLauncher.CommandLine
