import Mathlib.Algebra.GroupWithZero.Nat
import WindowedLauncher.Proofs.Residue

/-!
# What becomes of the backslashes

A double quote lets half of the backslashes before it pass, rounded down.
Counting the ones it takes gives an exact balance: what is delivered and what
is `lost` is together what was written, whatever the arguments are and
wherever the quotes open and close (`count_backslash_delivered`).
-/

namespace WindowedLauncher.CommandLine

/-- The backslashes lost in a quoted text that stands behind others. -/
def lostBehind (backslashes : Nat) : List Char → Nat
  | [] => (backslashes + 1) / 2
  | character :: text =>
    if character = '\\' then
      lostBehind (backslashes + 1) text
    else if character = '"' then
      backslashes / 2 + lostBehind 0 text
    else
      lostBehind 0 text

theorem lostBehind_doubleQuote_cons
    (backslashes : Nat) (text : List Char) :
    lostBehind backslashes ('"' :: text) =
      backslashes / 2 + lostBehind 0 text := by
  rw [lostBehind, if_neg (by decide), if_pos rfl]

theorem lostBehind_cons_of_ne
    (backslashes : Nat)
    {character : Char} (noQuote : character ≠ '"')
    (text : List Char) :
    lostBehind backslashes (character :: text) =
      lostBehind (if character = '\\' then backslashes + 1 else 0)
        text := by
  rw [lostBehind, if_neg noQuote]
  split <;> rfl

theorem count_cons_eq
    (symbol character : Char) (text : List Char) :
    (character :: text).count symbol =
      [character].count symbol + text.count symbol := by
  rw [← List.count_append, List.singleton_append]

/-- The backslashes of an argument that are not delivered. -/
def lost (argument : List Char) : Nat :=
  if isWrapped argument then lostBehind 0 argument else 0

namespace Scanner

theorem count_result (scanner : Scanner) (symbol : Char) :
    scanner.result.flatten.count symbol =
      scanner.finished.flatten.count symbol +
        scanner.fragment.complete.count symbol := by
  rw [flatten_result, List.count_append]

/-- But for quotes, what is no blank is read as it stands. -/
theorem count_step_of_ne
    (scanner : Scanner)
    {character : Char} (noQuote : character ≠ '"')
    {symbol : Char} (solid : isBlank symbol = false) :
    (scanner.step character).result.flatten.count symbol =
      scanner.result.flatten.count symbol + [character].count symbol := by
  rcases scanner.flatten_result_step_of_ne noQuote with
    ⟨blank, same⟩ | taken
  · have different : symbol ∉ [character] := by
      rw [List.mem_singleton]
      rintro rfl
      rw [blank] at solid
      exact absurd solid (by decide)
    rw [same, List.count_eq_zero_of_not_mem different, Nat.add_zero]
  · rw [taken, List.count_append]

theorem backslashes_step_of_ne
    (scanner : Scanner)
    {character : Char} (noQuote : character ≠ '"') :
    (scanner.step character).fragment.backslashes =
      if character = '\\' then scanner.fragment.backslashes + 1 else 0 := by
  by_cases ends : scanner.EndsAt character
  · have notBackslash : character ≠ '\\' := by
      rintro rfl
      exact absurd ends.1 (by decide)
    rw [step_of_endsAt ends, if_neg notBackslash]
    rfl
  · rw [step_of_not_endsAt ends, fragment_some,
      scanner.fragment.backslashes_advance noQuote]

/-- Behind a quote half of the backslashes before it are gone, rounded up. -/
theorem count_backslash_takeDoubleQuote (fragment : Fragment) :
    fragment.takeDoubleQuote.complete.count '\\' +
        (fragment.backslashes + 1) / 2 =
      fragment.complete.count '\\' := by
  have parts : fragment.complete.count '\\' =
      fragment.text.count '\\' + fragment.backslashes := by
    simp [Fragment.complete]
  rcases Nat.mod_two_eq_zero_or_one fragment.backslashes with even | odd
  · rw [Fragment.takeDoubleQuote_of_even even, parts]
    cases fragment.quoting <;> simp [Fragment.complete] <;> omega
  · rw [Fragment.takeDoubleQuote_of_odd odd, parts]
    simp [Fragment.complete]
    omega

/-! ## What a quoted text loses -/

theorem count_backslash_step_doubleQuote (scanner : Scanner) :
    (scanner.step '"').result.flatten.count '\\' +
        (scanner.fragment.backslashes + 1) / 2 =
      scanner.result.flatten.count '\\' := by
  have balance :=
    count_backslash_takeDoubleQuote scanner.fragment
  rw [step_doubleQuote, count_result, count_result scanner,
    fragment_some, ← balance, Nat.add_assoc]

/-- Behind an escaped text and its closing quote, the backslashes that are
missing are those that the text loses. -/
theorem count_backslash_run_quoted
    (scanner : Scanner) (content : List Char) :
    (scanner.run (content.flatMap escape ++ ['"'])).result.flatten.count
          '\\' +
        lostBehind scanner.fragment.backslashes content =
      scanner.result.flatten.count '\\' + content.count '\\' := by
  induction content generalizing scanner with
  | nil =>
      have balance := count_backslash_step_doubleQuote scanner
      simpa [lostBehind] using balance
  | cons character content ih =>
      by_cases isQuote : character = '"'
      · subst isQuote
        have opened := scanner.count_step_of_ne
          (show ('\\' : Char) ≠ '"' by decide)
          (show isBlank '\\' = false by decide)
        have pending := scanner.backslashes_step_of_ne
          (show ('\\' : Char) ≠ '"' by decide)
        have balance :=
          count_backslash_step_doubleQuote (scanner.step '\\')
        have decided :
            ((scanner.step '\\').step '"').fragment.backslashes = 0 :=
          Fragment.backslashes_takeDoubleQuote _
        have rest := ih ((scanner.step '\\').step '"')
        rw [run_escape_doubleQuote_cons, run_cons, run_cons, run_nil,
          lostBehind_doubleQuote_cons,
          List.count_cons_of_ne (by decide)]
        rw [decided] at rest
        rw [if_pos rfl] at pending
        rw [pending] at balance
        rw [List.count_singleton_self] at opened
        omega
      · have taken := scanner.count_step_of_ne isQuote
          (show isBlank '\\' = false by decide)
        have rest := ih (scanner.step character)
        rw [run_escape_cons_of_ne _ isQuote,
          lostBehind_cons_of_ne _ isQuote, count_cons_eq,
          ← scanner.backslashes_step_of_ne isQuote]
        omega

/-! ## Whole arguments and command lines -/

theorem count_run_of_not_mem
    (scanner : Scanner)
    {text : List Char} (noQuote : '"' ∉ text)
    {symbol : Char} (solid : isBlank symbol = false) :
    (scanner.run text).result.flatten.count symbol =
      scanner.result.flatten.count symbol + text.count symbol := by
  induction text generalizing scanner with
  | nil => simp
  | cons character text ih =>
      rcases not_or.mp (mt List.mem_cons.mpr noQuote) with
        ⟨differs, restClean⟩
      rw [run_cons, ih _ restClean,
        scanner.count_step_of_ne (Ne.symm differs) solid,
        count_cons_eq symbol character text, Nat.add_assoc]

/-- Reading an argument back costs the backslashes that it loses. -/
theorem count_backslash_run_quote
    (scanner : Scanner) (decided : scanner.fragment.backslashes = 0)
    (argument : List Char) :
    (scanner.run (quote argument)).result.flatten.count '\\' +
        lost argument =
      scanner.result.flatten.count '\\' + argument.count '\\' := by
  cases wrapped : isWrapped argument with
  | true =>
      have opened := count_backslash_step_doubleQuote scanner
      have balance :=
        count_backslash_run_quoted (scanner.step '"') argument
      have openedDecided :
          (scanner.step '"').fragment.backslashes = 0 := by
        rw [step_doubleQuote]
        exact Fragment.backslashes_takeDoubleQuote _
      rw [decided] at opened
      rw [openedDecided] at balance
      rw [run_quote_of_isWrapped _ wrapped, lost, if_pos wrapped]
      omega
  | false =>
      have noQuote : '"' ∉ argument := by
        intro member
        exact ne_doubleQuote_of_not_isWrapped wrapped '"' member rfl
      have unwrapped : ¬ isWrapped argument = true :=
        Bool.eq_false_iff.mp wrapped
      rw [quote_of_not_isWrapped wrapped, lost, if_neg unwrapped,
        Nat.add_zero, scanner.count_run_of_not_mem noQuote (by decide)]

/-- Reading arguments back costs the backslashes that they lose, all in all. -/
theorem count_backslash_run_written
    (scanner : Scanner) (arguments : List (List Char)) :
    (scanner.run (written arguments)).result.flatten.count '\\' +
        (arguments.map lost).sum =
      scanner.result.flatten.count '\\' +
        arguments.flatten.count '\\' := by
  induction arguments generalizing scanner with
  | nil => simp
  | cons argument arguments ih =>
      have spaced := scanner.count_step_of_ne
        (show (space : Char) ≠ '"' by decide)
        (show isBlank '\\' = false by decide)
      have decided : (scanner.step space).fragment.backslashes = 0 :=
        scanner.backslashes_step_of_ne (by decide)
      have taken :=
        count_backslash_run_quote (scanner.step space) decided argument
      have rest := ih ((scanner.step space).run (quote argument))
      have noBackslash : [(space : Char)].count '\\' = 0 := by decide
      rw [written_cons, run_cons, run_append, List.map_cons,
        List.sum_cons, List.flatten_cons, List.count_append]
      omega

end Scanner

/-- The backslashes that are delivered and those that are lost. -/
theorem count_backslash_delivered (arguments : List (List Char)) :
    (delivered arguments).flatten.count '\\' +
        (arguments.map lost).sum =
      arguments.flatten.count '\\' := by
  have balance :=
    Scanner.start.count_backslash_run_written arguments
  rw [delivered, balance]
  simp [Scanner.start, Scanner.result]

/-- No backslash is added on the way. -/
theorem count_backslash_delivered_le (arguments : List (List Char)) :
    (delivered arguments).flatten.count '\\' ≤
      arguments.flatten.count '\\' := by
  rw [← count_backslash_delivered arguments]
  exact Nat.le_add_right _ _

end WindowedLauncher.CommandLine
