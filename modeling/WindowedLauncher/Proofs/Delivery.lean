import WindowedLauncher.CommandLine.Faithful
import WindowedLauncher.Proofs.Turns
import WindowedLauncher.Proofs.Written

/-!
# Faithful arguments are delivered

A scanner that reads a faithful argument as it is written takes exactly that
argument and is outside quotes behind it (`run_quote_of_faithful`).  Faithful
arguments are therefore delivered in order, whatever is written behind them
(`result_run_written_append`).
-/

namespace WindowedLauncher.CommandLine

namespace Scanner

theorem step_space_of_isOutside
    {scanner : Scanner} (outside : scanner.IsOutside) :
    scanner.step space = ⟨scanner.result, none⟩ :=
  step_of_endsAt ⟨isBlank_space, outside⟩

/-! ## Arguments that are written as they are -/

/-- A text without blanks and quotes is added to the argument as it stands. -/
theorem run_plain
    (finished : List (List Char)) (fragment : Fragment)
    {text : List Char}
    (plain : ∀ character ∈ text,
      isBlank character = false ∧ character ≠ doubleQuote) :
    ∃ after, run ⟨finished, some fragment⟩ text =
        ⟨finished, some after⟩ ∧
      after.complete = fragment.complete ++ text ∧
      after.quoting.settle = fragment.quoting.settle := by
  induction text generalizing fragment with
  | nil => exact ⟨fragment, rfl, by simp, rfl⟩
  | cons character text ih =>
      rcases List.forall_mem_cons.mp plain with
        ⟨⟨solid, noQuote⟩, restPlain⟩
      obtain ⟨after, ran, complete, quoting⟩ :=
        ih (fragment.advance character) restPlain
      refine ⟨after, ?_, ?_, ?_⟩
      · rw [run_cons, step_of_solid _ solid]
        exact ran
      · rw [complete, fragment.complete_advance noQuote,
          List.append_assoc, List.singleton_append]
      · rw [quoting, fragment.quoting_advance noQuote,
          Quoting.settle_settle]

theorem run_between_plain
    (finished : List (List Char))
    {argument : List Char} (plain : isWrapped argument = false) :
    ∃ fragment, run ⟨finished, none⟩ argument =
        ⟨finished, some fragment⟩ ∧
      fragment.complete = argument ∧
      fragment.quoting.settle = .outside := by
  rcases (isWrapped_eq_false_iff argument).mp plain with
    ⟨nonempty, plainSymbols⟩
  obtain ⟨fragment, ran, complete, outside⟩ :=
    run_plain finished .empty plainSymbols
  refine ⟨fragment, ?_, complete, outside⟩
  obtain ⟨character, rest, rfl⟩ := List.exists_cons_of_ne_nil nonempty
  rw [run_between_of_solid finished
    (plainSymbols character List.mem_cons_self).1, ran]

/-! ## Arguments in quotes -/

theorem step_between_doubleQuote (finished : List (List Char)) :
    step ⟨finished, none⟩ '"' =
      ⟨finished, some ⟨[], 0, .inside⟩⟩ := by
  simp [Fragment.takeDoubleQuote, Fragment.empty]

/-- Inside quotes everything but a quote is read as part of the argument. -/
theorem step_inside
    (finished : List (List Char)) {fragment : Fragment}
    (inside : fragment.quoting = .inside)
    {character : Char} (noQuote : character ≠ '"') :
    step ⟨finished, some fragment⟩ character =
        ⟨finished, some (fragment.advance character)⟩ ∧
      (fragment.advance character).quoting = .inside := by
  constructor
  · apply step_of_not_endsAt
    apply not_endsAt_of_inside
    exact inside
  · rw [fragment.quoting_advance noQuote, inside]
    rfl

theorem run_quote_of_isWrapped
    (scanner : Scanner)
    {argument : List Char} (wrapped : isWrapped argument = true) :
    scanner.run (quote argument) =
      (scanner.step '"').run (argument.flatMap escape ++ ['"']) := by
  rw [quote_of_isWrapped wrapped]
  rfl

theorem run_escape_doubleQuote_cons
    (scanner : Scanner) (content rest : List Char) :
    scanner.run (('"' :: content).flatMap escape ++ rest) =
      (scanner.run ['\\', '"']).run (content.flatMap escape ++ rest) :=
  rfl

theorem run_escape_cons_of_ne
    (scanner : Scanner) {character : Char} (noQuote : character ≠ '"')
    (content rest : List Char) :
    scanner.run ((character :: content).flatMap escape ++ rest) =
      (scanner.step character).run (content.flatMap escape ++ rest) := by
  rw [flatMap_escape_cons_of_ne noQuote, List.cons_append, run_cons]

/-- What stands before a text counts only by the backslashes that wait. -/
theorem isSafeBehind_advance
    (fragment : Fragment) {character : Char} (noQuote : character ≠ '"')
    (text : List Char) :
    isSafeBehind (fragment.advance character).backslashes text =
      isSafeBehind fragment.backslashes (character :: text) := by
  rw [fragment.backslashes_advance noQuote, isSafeBehind]
  by_cases isBackslash : character = '\\'
  · rw [if_pos isBackslash]
    exact (if_pos isBackslash).symm
  · rw [if_neg isBackslash]
    exact (((if_neg isBackslash).trans (if_neg noQuote)).symm)

theorem isSafeBehind_doubleQuote_cons_iff
    (backslashes : Nat) (text : List Char) :
    isSafeBehind backslashes ('"' :: text) = true ↔
      (backslashes = 0 ∨ backslashes = 1 ∧ text = []) ∧
        isSafeBehind 0 text = true := by
  have notBackslash : ('"' : Char) ≠ backslash := by decide
  have isQuote : ('"' : Char) = doubleQuote := rfl
  rw [isSafeBehind, if_neg notBackslash, if_pos isQuote]
  simp

/-- Inside quotes, a safe text is taken up to its closing quote. -/
theorem run_quoted_of_safe
    (finished : List (List Char)) (fragment : Fragment)
    (inside : fragment.quoting = .inside)
    {content : List Char}
    (safe : isSafeBehind fragment.backslashes content = true) :
    ∃ quoting : Quoting, quoting.settle = .outside ∧
      run ⟨finished, some fragment⟩ (content.flatMap escape ++ ['"']) =
        ⟨finished, some ⟨fragment.complete ++ content, 0, quoting⟩⟩ := by
  induction content generalizing fragment with
  | nil =>
      have decided : fragment.backslashes = 0 := by
        simpa [isSafeBehind] using safe
      refine ⟨.closed, rfl, ?_⟩
      rw [List.flatMap_nil, List.nil_append, run_cons, step_doubleQuote,
        run_nil]
      simp [Fragment.takeDoubleQuote, decided, inside,
        Fragment.complete]
  | cons character content ih =>
      by_cases isQuote : character = '"'
      · subst isQuote
        rcases (isSafeBehind_doubleQuote_cons_iff _ _).mp safe with
          ⟨none | ⟨single, rfl⟩, restSafe⟩
        · obtain ⟨quoting, closed, ran⟩ :=
            ih ⟨fragment.text ++ ['"'], 0, .inside⟩ rfl restSafe
          refine ⟨quoting, closed, ?_⟩
          rw [run_escape_doubleQuote_cons, run_some_escaped,
            Fragment.takeEscaped_of_inside inside none, ran]
          simp [Fragment.complete, none]
        · refine ⟨.outside, rfl, ?_⟩
          rw [run_escape_doubleQuote_cons, run_some_escaped,
            Fragment.takeEscaped_of_single inside single]
          simp [Fragment.takeDoubleQuote, Fragment.complete, single]
      · rcases step_inside finished inside isQuote with
          ⟨stays, stillInside⟩
        rw [← isSafeBehind_advance fragment isQuote] at safe
        obtain ⟨quoting, closed, ran⟩ :=
          ih (fragment.advance character) stillInside safe
        refine ⟨quoting, closed, ?_⟩
        rw [run_escape_cons_of_ne _ isQuote, stays, ran,
          fragment.complete_advance isQuote,
          List.append_assoc, List.singleton_append]

/-! ## Whole arguments -/

theorem isSafeBehind_of_isFaithful
    {argument : List Char}
    (wrapped : isWrapped argument = true)
    (faithful : IsFaithful argument) :
    isSafeBehind 0 argument = true := by
  rw [← isFaithful_iff, isFaithful, Bool.or_eq_true] at faithful
  rw [isWrapped, Bool.or_eq_true, List.isEmpty_iff] at wrapped
  rcases faithful with noneQuoted | safe
  · rcases wrapped with rfl | anyQuoted
    · rfl
    · rw [anyQuoted] at noneQuoted
      exact absurd noneQuoted (by decide)
  · exact safe

/-- Between arguments a faithful one is read back as it was written. -/
theorem run_quote_of_faithful
    (finished : List (List Char))
    {argument : List Char} (faithful : IsFaithful argument) :
    ∃ fragment, run ⟨finished, none⟩ (quote argument) =
        ⟨finished, some fragment⟩ ∧
      fragment.complete = argument ∧
      fragment.quoting.settle = .outside := by
  cases wrapped : isWrapped argument with
  | true =>
      have safe := isSafeBehind_of_isFaithful wrapped faithful
      obtain ⟨quoting, outside, ran⟩ :=
        run_quoted_of_safe finished ⟨[], 0, .inside⟩ rfl safe
      refine ⟨⟨argument, 0, quoting⟩, ?_, by simp [Fragment.complete],
        outside⟩
      rw [run_quote_of_isWrapped _ wrapped, step_between_doubleQuote, ran]
      rfl
  | false =>
      rw [quote_of_not_isWrapped wrapped]
      exact run_between_plain finished wrapped

/-! ## Lists of arguments -/

/-- Outside quotes faithful arguments are read back one by one, and the last of
them ends outside quotes too. -/
theorem run_written_of_faithful
    {scanner : Scanner} (outside : scanner.IsOutside)
    {arguments : List (List Char)}
    (faithful : ∀ argument ∈ arguments, IsFaithful argument) :
    (scanner.run (written arguments)).IsOutside ∧
      (scanner.run (written arguments)).result =
        scanner.result ++ arguments := by
  induction arguments generalizing scanner with
  | nil => exact ⟨outside, by simp⟩
  | cons argument arguments ih =>
      rcases List.forall_mem_cons.mp faithful with
        ⟨headFaithful, restFaithful⟩
      obtain ⟨fragment, ran, complete, closed⟩ :=
        run_quote_of_faithful scanner.result headFaithful
      have next : (⟨scanner.result, some fragment⟩ : Scanner).IsOutside :=
        closed
      rw [written_cons, run_cons, step_space_of_isOutside outside,
        run_append, ran]
      rcases ih next restFaithful with ⟨stillOutside, read⟩
      refine ⟨stillOutside, read.trans ?_⟩
      simp [result, complete]

/-- What is written behind a place outside quotes is read on its own. -/
theorem result_run_written_of_isOutside
    {scanner : Scanner} (outside : scanner.IsOutside)
    (arguments : List (List Char)) :
    (scanner.run (written arguments)).result =
      scanner.result ++ (start.run (written arguments)).result := by
  cases arguments with
  | nil => simp [start, result]
  | cons argument arguments =>
      have fromStart : start.step space = start :=
        step_space_of_isOutside (isOutside_between [])
      rw [written_cons, run_cons, run_cons, fromStart,
        step_space_of_isOutside outside, result_run_between]

/-- Faithful arguments are delivered, whatever is written behind them. -/
theorem result_run_written_append
    {arguments : List (List Char)}
    (faithful : ∀ argument ∈ arguments, IsFaithful argument)
    (others : List (List Char)) :
    (start.run (written (arguments ++ others))).result =
      arguments ++ (start.run (written others)).result := by
  rcases run_written_of_faithful (isOutside_between []) faithful with
    ⟨outside, read⟩
  rw [written_append, run_append]
  exact (result_run_written_of_isOutside outside others).trans
    (congrArg (· ++ _) read)

end Scanner

/-- What a program is handed if it is started with the given arguments. -/
def delivered (arguments : List (List Char)) : List (List Char) :=
  (Scanner.start.run (written arguments)).result

/-- What stands behind faithful arguments is delivered as if it stood alone. -/
theorem delivered_append
    {arguments : List (List Char)}
    (faithful : ∀ argument ∈ arguments, IsFaithful argument)
    (others : List (List Char)) :
    delivered (arguments ++ others) = arguments ++ delivered others :=
  Scanner.result_run_written_append faithful others

theorem delivered_of_faithful
    {arguments : List (List Char)}
    (faithful : ∀ argument ∈ arguments, IsFaithful argument) :
    delivered arguments = arguments := by
  have read := delivered_append faithful []
  rw [List.append_nil] at read
  rw [read]
  exact List.append_nil arguments

/-- A line is read as its program and what is delivered of its arguments. -/
theorem split_ofArguments
    {program : List Char} (noQuote : doubleQuote ∉ program)
    (arguments : List (List Char)) :
    split (ofArguments program arguments) =
      program :: delivered arguments := by
  rw [split_eq_scan, programAndRest_ofArguments noQuote]
  rfl

end WindowedLauncher.CommandLine
