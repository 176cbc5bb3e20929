import Mathlib.Data.List.TakeWhile
import WindowedLauncher.CommandLine.Split
import WindowedLauncher.Proofs.Scanner

/-!
# The reader that takes turns, and the scanner

The reader of `Split` takes back backslashes that it has already taken, and
handles a run of double quotes in one turn; a scanner does neither.  Each turn
leads to a place from which the scanner gives the same arguments
(`turn_reading`), so both read the same off any command line
(`split_eq_scan`).
-/

namespace WindowedLauncher.CommandLine

namespace Quoting

/-- The count of double quotes that the other reader keeps. -/
def count : Quoting → Nat
  | .outside => 0
  | .inside => 1
  | .closed => 2

theorem count_eq_zero_iff (quoting : Quoting) :
    quoting.count = 0 ↔ quoting = .outside := by
  cases quoting <;> decide

end Quoting

namespace Fragment

/-- Where the reader that takes turns stands inside the same argument. -/
def reading (fragment : Fragment) : Reading :=
  ⟨some fragment.complete.reverse, fragment.backslashes,
    fragment.quoting.count⟩

@[simp]
theorem backslashes_reading (fragment : Fragment) :
    fragment.reading.backslashes = fragment.backslashes :=
  rfl

@[simp]
theorem quotes_reading (fragment : Fragment) :
    fragment.reading.quotes = fragment.quoting.count :=
  rfl

@[simp]
theorem argument?_reading (fragment : Fragment) :
    fragment.reading.argument? = some fragment.complete := by
  simp [Reading.argument?, reading]

theorem newest_reading (fragment : Fragment) :
    fragment.reading.newest =
      List.replicate fragment.backslashes '\\' ++
        fragment.text.reverse := by
  simp [Reading.newest, reading, complete]

/-- Taking backslashes back leaves those that are let pass. -/
theorem drop_newest_reading
    (fragment : Fragment) {dropped kept : Nat}
    (parts : fragment.backslashes = dropped + kept) :
    fragment.reading.newest.drop dropped =
      (fragment.text ++ List.replicate kept '\\').reverse := by
  rw [newest_reading, parts, ← List.replicate_append_replicate,
    List.append_assoc, List.drop_left' List.length_replicate,
    List.reverse_append, List.reverse_replicate]

theorem takeBackslash_reading
    (fragment : Fragment) (notClosed : fragment.quoting ≠ .closed) :
    fragment.reading.takeBackslash =
      (fragment.advance '\\').reading := by
  rw [Reading.takeBackslash, newest_reading]
  simp [reading, advance, complete, List.replicate_succ',
    Quoting.settle_of_ne_closed notClosed]

theorem takeOrdinary_reading
    (fragment : Fragment) (notClosed : fragment.quoting ≠ .closed)
    {character : Char}
    (notBackslash : character ≠ '\\') (notQuote : character ≠ '"') :
    fragment.reading.takeOrdinary character =
      (fragment.advance character).reading := by
  simp [Reading.takeOrdinary, Reading.newest, reading, advance, complete,
    Quoting.settle_of_ne_closed notClosed, notBackslash, notQuote]

/-- A reading takes the first of a run of quotes as a fragment takes it. -/
theorem openRun_reading
    (fragment : Fragment) (notClosed : fragment.quoting ≠ .closed) :
    fragment.reading.openRun = fragment.takeDoubleQuote.reading := by
  rcases Nat.mod_two_eq_zero_or_one fragment.backslashes with even | odd
  · have half := fragment.drop_newest_reading
      (show fragment.backslashes =
        fragment.backslashes / 2 + fragment.backslashes / 2 by omega)
    rw [Reading.openRun, backslashes_reading, if_pos even, half,
      takeDoubleQuote]
    cases quoting : fragment.quoting with
    | outside => simp [reading, complete, even, quoting, Quoting.count]
    | inside => simp [reading, complete, even, quoting, Quoting.count]
    | closed => exact absurd quoting notClosed
  · have half := fragment.drop_newest_reading
      (show fragment.backslashes =
        (fragment.backslashes / 2 + 1) + fragment.backslashes / 2 by
          omega)
    rw [Reading.openRun, backslashes_reading, if_neg (by omega), half,
      takeDoubleQuote]
    simp [reading, complete, odd]

/-- A reading takes the others of a run of quotes as a fragment takes them. -/
theorem continueRun_reading
    (fragment : Fragment) (decided : fragment.backslashes = 0) :
    fragment.reading.continueRun = fragment.takeDoubleQuote.reading := by
  cases quoting : fragment.quoting <;>
    simp [Reading.continueRun, Reading.newest, reading, complete,
      takeDoubleQuote, decided, quoting, Quoting.count]

theorem closeRun_reading (fragment : Fragment) :
    fragment.reading.closeRun = fragment.settled.reading := by
  cases quoting : fragment.quoting <;>
    simp [Reading.closeRun, reading, complete, settled, quoting,
      Quoting.count, Quoting.settle]

end Fragment

namespace Scanner

theorem foldl_continueRun_reading
    (fragment : Fragment) (decided : fragment.backslashes = 0)
    (quotes : List Char) :
    quotes.foldl (fun state _ => state.continueRun) fragment.reading =
      (quotes.foldl (fun current _ => current.takeDoubleQuote)
        fragment).reading := by
  induction quotes generalizing fragment with
  | nil => rfl
  | cons quote quotes ih =>
      rw [List.foldl_cons, List.foldl_cons,
        fragment.continueRun_reading decided]
      exact ih _ fragment.backslashes_takeDoubleQuote

/-- A reading takes a run of quotes at once, and a fragment one by one. -/
theorem takeRun_reading
    (fragment : Fragment) (notClosed : fragment.quoting ≠ .closed)
    (quotes : List Char) :
    fragment.reading.takeRun quotes =
      (quotes.foldl (fun current _ => current.takeDoubleQuote)
        fragment.takeDoubleQuote).settled.reading := by
  rw [Reading.takeRun, fragment.openRun_reading notClosed,
    foldl_continueRun_reading _ fragment.backslashes_takeDoubleQuote,
    Fragment.closeRun_reading]

theorem atArgument_of_ne_nil
    {text : List Char} (nonempty : text ≠ []) :
    Reading.atArgument text = Fragment.empty.reading := by
  cases text with
  | nil => exact absurd rfl nonempty
  | cons character text => rfl

theorem run_start_of_ne_nil
    {text : List Char} (nonempty : text.dropWhile isBlank ≠ []) :
    start.run text =
      run ⟨[], some .empty⟩ (text.dropWhile isBlank) := by
  have solid := List.head_dropWhile_not isBlank nonempty
  obtain ⟨character, rest, parts⟩ :=
    List.exists_cons_of_ne_nil nonempty
  have opened : isBlank character = false := by
    simpa only [parts, List.head_cons] using solid
  rw [start, ← run_between_dropBlanks, parts]
  exact run_between_of_solid [] opened rest

theorem run_start_of_eq_nil
    {text : List Char} (nothing : text.dropWhile isBlank = []) :
    start.run text = start := by
  rw [start, ← run_between_dropBlanks, nothing, run_nil]

/-- Between arguments, both readers agree if they do inside the next one. -/
theorem arguments_of_atArgument
    {state : Reading} {rest text : List Char}
    (atArgument : state = Reading.atArgument (text.dropWhile isBlank))
    (left : rest = text.dropWhile isBlank)
    (inside : text.dropWhile isBlank ≠ [] →
      state.arguments rest = (run ⟨[], some .empty⟩ rest).result) :
    state.arguments rest = (start.run text).result := by
  by_cases nonempty : text.dropWhile isBlank = []
  · rw [atArgument, left, nonempty, run_start_of_eq_nil nonempty,
      Reading.arguments]
    rfl
  · rw [inside nonempty, run_start_of_ne_nil nonempty, left]

theorem eq_of_mem_takeWhile
    {text : List Char} {character found : Char}
    (member : found ∈ text.takeWhile (· = character)) :
    found = character := by
  simpa using List.mem_takeWhile_imp member

theorem head_dropWhile_ne_doubleQuote (text : List Char) :
    (text.dropWhile (· = '"')).head? ≠ some '"' := by
  intro quoteLeft
  have stopped := List.head?_dropWhile_not (· = '"') text
  rw [quoteLeft] at stopped
  simp at stopped

/--
A turn inside an argument either ends it at a blank, or goes to another
fragment from which the scanner gives the same result.
-/
theorem turn_reading
    (fragment : Fragment) (notClosed : fragment.quoting ≠ .closed)
    (character : Char) (text : List Char) :
    (isBlank character = true ∧ fragment.quoting = .outside ∧
      fragment.reading.turn character text =
        ⟨some fragment.complete,
          Reading.atArgument (text.dropWhile isBlank),
          text.dropWhile isBlank⟩) ∨
    ∃ after rest, after.quoting ≠ .closed ∧
      fragment.reading.turn character text =
        ⟨none, after.reading, rest⟩ ∧
      (run ⟨[], some fragment⟩ (character :: text)).result =
        (run ⟨[], some after⟩ rest).result := by
  by_cases cut : isBlank character = true ∧ fragment.quoting = .outside
  · rcases cut with ⟨blank, outside⟩
    refine Or.inl ⟨blank, outside, ?_⟩
    simp [Reading.turn, blank, outside, Quoting.count]
  refine Or.inr ?_
  have stays : step ⟨[], some fragment⟩ character =
      ⟨[], some (fragment.advance character)⟩ := by
    apply step_of_not_endsAt
    rw [EndsAt, IsOutside, fragment_some,
      Quoting.settle_of_ne_closed notClosed]
    exact cut
  have noCut :
      ¬ (isBlank character && fragment.reading.quotes = 0) = true := by
    intro blankOutside
    rw [Bool.and_eq_true, decide_eq_true_eq] at blankOutside
    exact cut ⟨blankOutside.1,
      fragment.quoting.count_eq_zero_iff.mp blankOutside.2⟩
  rw [run_cons, stays]
  by_cases isBackslash : character = '\\'
  · subst isBackslash
    refine ⟨fragment.advance '\\', text, ?_, ?_, rfl⟩
    · exact Quoting.settle_ne_closed fragment.quoting
    · rw [Reading.turn, if_neg noCut, if_pos rfl,
        fragment.takeBackslash_reading notClosed]
  by_cases isQuote : character = '"'
  · subst isQuote
    refine ⟨((text.takeWhile (· = '"')).foldl
      (fun current _ => current.takeDoubleQuote)
        fragment.takeDoubleQuote).settled,
      text.dropWhile (· = '"'), ?_, ?_, ?_⟩
    · exact Quoting.settle_ne_closed _
    · rw [Reading.turn, if_neg noCut, if_neg isBackslash, if_pos rfl,
        takeRun_reading fragment notClosed]
    · rw [result_run_settled _ _ (head_dropWhile_ne_doubleQuote text),
        ← run_doubleQuotes [] _ _ (fun _ => eq_of_mem_takeWhile),
        ← run_append, List.takeWhile_append_dropWhile]
      rfl
  · refine ⟨fragment.advance character, text, ?_, ?_, rfl⟩
    · rw [Fragment.advance, if_neg isQuote, if_neg isBackslash]
      exact Quoting.settle_ne_closed fragment.quoting
    · rw [Reading.turn, if_neg noCut, if_neg isBackslash,
        if_neg isQuote,
        fragment.takeOrdinary_reading notClosed isBackslash isQuote]

/-- Inside an argument, both readers give the same arguments. -/
theorem arguments_reading
    (fragment : Fragment) (notClosed : fragment.quoting ≠ .closed)
    (text : List Char) :
    fragment.reading.arguments text =
      (run ⟨[], some fragment⟩ text).result := by
  generalize standing : fragment.reading = reading
  induction reading, text using Reading.arguments.induct
    generalizing fragment with
  | case1 reading =>
      subst standing
      rw [Reading.arguments]
      simp [result]
  | case2 reading character text next ih =>
      subst standing
      rw [Reading.arguments]
      change next.finished.toList ++ next.state.arguments next.rest = _
      rcases turn_reading fragment notClosed character text with
        ⟨blank, outside, turned⟩ | ⟨after, rest, settled, turned, same⟩
      · have finished : next.finished = some fragment.complete :=
          congrArg Reading.Turn.finished turned
        have state : next.state =
            Reading.atArgument (text.dropWhile isBlank) :=
          congrArg Reading.Turn.state turned
        have left : next.rest = text.dropWhile isBlank :=
          congrArg Reading.Turn.rest turned
        have ends : EndsAt ⟨[], some fragment⟩ character := by
          rw [EndsAt, IsOutside, fragment_some, outside]
          exact ⟨blank, rfl⟩
        have readOn : next.state.arguments next.rest =
            (start.run text).result := by
          apply arguments_of_atArgument state left
          intro nonempty
          exact ih .empty (by decide)
            (state.trans (atArgument_of_ne_nil nonempty)).symm
        rw [result_run_of_endsAt ends, finished, readOn]
        rfl
      · have finished : next.finished = none :=
          congrArg Reading.Turn.finished turned
        have state : next.state = after.reading :=
          congrArg Reading.Turn.state turned
        have left : next.rest = rest :=
          congrArg Reading.Turn.rest turned
        rw [same, ih after settled state.symm, finished, left]
        rfl

end Scanner

/-- Splitting a command line is scanning what follows argument 0. -/
theorem split_eq_scan (line : List Char) :
    split line = (programAndRest line).1 ::
      (Scanner.start.run (programAndRest line).2).result := by
  have tail : (Reading.atArgument
      ((programAndRest line).2.dropWhile isBlank)).arguments
        ((programAndRest line).2.dropWhile isBlank) =
          (Scanner.start.run (programAndRest line).2).result := by
    apply Scanner.arguments_of_atArgument rfl rfl
    intro nonempty
    rw [Scanner.atArgument_of_ne_nil nonempty]
    exact Scanner.arguments_reading .empty (by decide) _
  exact congrArg (List.cons (programAndRest line).1) tail

end WindowedLauncher.CommandLine
