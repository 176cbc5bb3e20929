import WindowedLauncher.Proofs.Backslashes

/-!
# The weight of double quotes

The `weight` of arguments counts each double quote twice, and each empty
argument once.  While a line is read in which no backslash is lost, the weight
of what has been read and of what is left does not grow: an empty argument
that is read inside out becomes a double quote, and so pays for it once.  A
text inside quotes that is not safe there is left with less
(`outerWeight_run_quoted_lt`).
-/

namespace WindowedLauncher.CommandLine

/-- Every double quote counts twice, and every empty argument once. -/
def weight (arguments : List (List Char)) : Nat :=
  2 * arguments.flatten.count '"' + arguments.count []

theorem weight_cons
    (argument : List Char) (arguments : List (List Char)) :
    weight (argument :: arguments) =
      weight [argument] + weight arguments := by
  simp only [weight, List.flatten_cons, List.flatten_nil,
    List.append_nil, List.count_append, List.count_cons, List.count_nil]
  omega

theorem weight_singleton (argument : List Char) :
    weight [argument] =
      2 * argument.count '"' + if argument = [] then 1 else 0 := by
  simp [weight, List.count_singleton]

/--
What a place inside a quoted argument owes.  Read inside out it owes one, for
the empty argument that may still become a double quote; a closed stretch owes
another one unless the argument ends there.
-/
def Quoting.debt : Quoting → Nat
  | .outside => 1
  | .inside => 0
  | .closed => 2

theorem Quoting.debt_settle_le (quoting : Quoting) :
    quoting.settle.debt ≤ quoting.debt := by
  cases quoting <;> decide

theorem Quoting.debt_pos
    {quoting : Quoting} (notInside : quoting ≠ .inside) :
    0 < quoting.debt := by
  cases quoting with
  | inside => exact absurd rfl notInside
  | outside => decide
  | closed => decide

namespace Scanner

/-- The weight of what has been read, an empty argument at its end apart. -/
def readWeight (scanner : Scanner) : Nat :=
  2 * scanner.result.flatten.count '"' + scanner.finished.count []

/-- What a place between two quoted arguments still owes. -/
def credit (scanner : Scanner) : Nat :=
  match scanner.current with
  | none => 0
  | some fragment =>
    if fragment.quoting = .inside ∨ fragment.complete = [] then 1 else 0

/-- The weight that has been read, as it counts between two arguments. -/
def outerWeight (scanner : Scanner) : Nat :=
  scanner.readWeight + scanner.credit

/-- The weight that has been read, as it counts inside an argument. -/
def innerWeight (scanner : Scanner) : Nat :=
  scanner.readWeight + scanner.fragment.quoting.debt

/-- No argument is open, or the open one has some text already. -/
def IsFilled (scanner : Scanner) : Prop :=
  ∀ fragment, scanner.current = some fragment → fragment.complete ≠ []

theorem weight_result_le (scanner : Scanner) :
    weight scanner.result ≤ scanner.outerWeight := by
  rw [weight, outerWeight, readWeight, credit, Nat.add_assoc]
  apply Nat.add_le_add_left
  rw [result]
  cases scanner.current with
  | none => simp
  | some fragment =>
      rw [List.count_append]
      apply Nat.add_le_add_left
      by_cases blank : fragment.complete = []
      · simp [blank]
      · simp [blank]

theorem weight_result_of_isFilled
    {scanner : Scanner} (filled : scanner.IsFilled) :
    weight scanner.result = scanner.readWeight := by
  rw [weight, readWeight]
  congr 1
  rw [result, List.count_append]
  cases current : scanner.current with
  | none => simp
  | some fragment => simp [filled fragment current]

theorem outerWeight_cut (arguments : List (List Char)) :
    outerWeight ⟨arguments, none⟩ = weight arguments := by
  simp [outerWeight, readWeight, credit, weight, result]

theorem innerWeight_cut (arguments : List (List Char)) :
    innerWeight ⟨arguments, none⟩ = weight arguments + 1 := by
  simp [innerWeight, readWeight, weight, result, Fragment.empty,
    Quoting.debt]

/-! ## Single characters -/

theorem readWeight_step_of_not_endsAt
    {scanner : Scanner}
    {character : Char} (noQuote : character ≠ '"')
    (stays : ¬ scanner.EndsAt character) :
    (scanner.step character).readWeight = scanner.readWeight := by
  have counted := scanner.count_step_of_ne noQuote
    (show isBlank '"' = false by decide)
  have sameFinished :
      (scanner.step character).finished = scanner.finished := by
    rw [step_of_not_endsAt stays]
  have none : [character].count '"' = 0 :=
    List.count_eq_zero_of_not_mem (by simpa using Ne.symm noQuote)
  rw [readWeight, readWeight, counted, sameFinished, none, Nat.add_zero]

theorem isFilled_step_of_ne
    (scanner : Scanner)
    {character : Char} (noQuote : character ≠ '"') :
    (scanner.step character).IsFilled := by
  intro fragment current
  by_cases ends : scanner.EndsAt character
  · rw [step_of_endsAt ends] at current
    exact absurd current (by simp)
  · rw [step_of_not_endsAt ends] at current
    rw [← Option.some.inj current,
      scanner.fragment.complete_advance noQuote]
    simp

/-- Inside an argument nothing but a quote adds weight. -/
theorem innerWeight_step_of_ne_le
    {scanner : Scanner}
    (filled : scanner.IsFilled ∨ scanner.fragment.quoting = .inside)
    {character : Char} (noQuote : character ≠ '"') :
    (scanner.step character).innerWeight ≤ scanner.innerWeight := by
  by_cases ends : scanner.EndsAt character
  · have notInside : scanner.fragment.quoting ≠ .inside := by
      intro inside
      exact not_endsAt_of_inside inside character ends
    have completed : scanner.IsFilled :=
      filled.resolve_right notInside
    have owed := Quoting.debt_pos notInside
    rw [step_of_endsAt ends, innerWeight_cut,
      weight_result_of_isFilled completed, innerWeight]
    omega
  · have settled :
        (scanner.step character).fragment.quoting =
          scanner.fragment.quoting.settle := by
      rw [step_of_not_endsAt ends, fragment_some,
        scanner.fragment.quoting_advance noQuote]
    rw [innerWeight, innerWeight,
      readWeight_step_of_not_endsAt noQuote ends, settled]
    exact Nat.add_le_add_left (Quoting.debt_settle_le _) _

/-! ## Double quotes -/

/-- A quote weighs two where it is read as text. -/
theorem readWeight_step_doubleQuote (scanner : Scanner) :
    (scanner.step '"').readWeight =
      scanner.readWeight +
        if scanner.fragment.backslashes % 2 = 1 ∨
          scanner.fragment.quoting = .closed then 2 else 0 := by
  have counted :
      scanner.fragment.takeDoubleQuote.complete.count '"' =
        scanner.fragment.complete.count '"' +
          if scanner.fragment.backslashes % 2 = 1 ∨
            scanner.fragment.quoting = .closed then 1 else 0 := by
    rcases Nat.mod_two_eq_zero_or_one scanner.fragment.backslashes with
      even | odd
    · rw [Fragment.takeDoubleQuote_of_even even]
      cases quoting : scanner.fragment.quoting <;>
        simp [Fragment.complete, even, List.count_replicate]
    · rw [Fragment.takeDoubleQuote_of_odd odd]
      simp [Fragment.complete, odd, List.count_replicate]
  rw [readWeight, readWeight, step_doubleQuote, count_result,
    count_result scanner, fragment_some, counted]
  dsimp only
  split <;> omega

theorem isFilled_run_escaped (scanner : Scanner) :
    (scanner.run ['\\', '"']).IsFilled := by
  intro fragment current
  rw [run_escaped] at current
  rw [← Option.some.inj current, Fragment.takeEscaped]
  rcases Nat.mod_two_eq_zero_or_one (scanner.fragment.backslashes + 1)
    with even | odd
  · have some : (scanner.fragment.backslashes + 1) / 2 ≠ 0 := by omega
    rw [Fragment.takeDoubleQuote_of_even even]
    cases scanner.fragment.quoting <;>
      simp [Quoting.settle, Fragment.complete, some]
  · rw [Fragment.takeDoubleQuote_of_odd odd]
    simp [Fragment.complete]

/-- An escaped double quote costs no more than it weighs. -/
theorem innerWeight_run_escaped_le (scanner : Scanner) :
    (scanner.run ['\\', '"']).innerWeight ≤ scanner.innerWeight + 2 := by
  have pending : (scanner.step '\\').readWeight = scanner.readWeight :=
    readWeight_step_of_not_endsAt (by decide)
      (scanner.not_endsAt_of_solid (by decide))
  have weighed := readWeight_step_doubleQuote (scanner.step '\\')
  rw [run_cons, run_cons, run_nil, innerWeight, innerWeight, weighed,
    pending, step_backslash, step_doubleQuote, fragment_some,
    fragment_some]
  rcases Nat.mod_two_eq_zero_or_one (scanner.fragment.backslashes + 1)
    with even | odd
  · rw [Fragment.takeDoubleQuote_of_even even]
    cases scanner.fragment.quoting <;>
      simp [Quoting.settle, Quoting.debt, even] <;> omega
  · rw [Fragment.takeDoubleQuote_of_odd odd]
    cases scanner.fragment.quoting <;>
      simp [Quoting.settle, Quoting.debt, odd]

/-- The closing quote of an argument pays what was owed. -/
theorem outerWeight_close_le
    {scanner : Scanner} (filled : scanner.IsFilled)
    (decided : scanner.fragment.backslashes = 0) :
    (scanner.step '"').outerWeight ≤ scanner.innerWeight := by
  have weighed := readWeight_step_doubleQuote scanner
  have even : scanner.fragment.backslashes % 2 = 0 := by
    rw [decided]
  rw [outerWeight, innerWeight, weighed, credit, step_doubleQuote,
    Fragment.takeDoubleQuote_of_even even, decided]
  cases current : scanner.current with
  | none =>
      simp [Scanner.fragment, current, Fragment.empty, Quoting.debt]
  | some fragment =>
      have sameFragment : scanner.fragment = fragment := by
        rw [Scanner.fragment, current, Option.getD_some]
      have textLeft : fragment.text ≠ [] := by
        have completed := filled fragment current
        rw [sameFragment] at decided
        simpa [Fragment.complete, decided] using completed
      rw [sameFragment]
      cases fragment.quoting <;>
        simp [Quoting.debt, Fragment.complete, textLeft]

/-! ## Quoted texts -/

/--
Reading a quoted text that loses no backslash never gains weight, in whichever
state of the quotes it starts.
-/
theorem outerWeight_run_quoted_le
    {scanner : Scanner} {content : List Char}
    (filled : scanner.IsFilled ∨
      scanner.fragment.quoting = .inside ∧ content ≠ [])
    (lossless :
      lostBehind scanner.fragment.backslashes content = 0) :
    (scanner.run (content.flatMap escape ++ ['"'])).outerWeight ≤
      scanner.innerWeight + 2 * content.count '"' := by
  induction content generalizing scanner with
  | nil =>
      have decided : scanner.fragment.backslashes = 0 := by
        rw [lostBehind] at lossless
        omega
      have ended : scanner.IsFilled :=
        filled.resolve_right (fun opened => opened.2 rfl)
      exact outerWeight_close_le ended decided
  | cons character content ih =>
      by_cases isQuote : character = '"'
      · subst isQuote
        have decided :
            (scanner.run ['\\', '"']).fragment.backslashes = 0 :=
          Fragment.backslashes_takeDoubleQuote _
        have restLossless : lostBehind 0 content = 0 := by
          rw [lostBehind_doubleQuote_cons] at lossless
          omega
        have rest := ih (Or.inl scanner.isFilled_run_escaped)
          (by rw [decided]; exact restLossless)
        have escaped := scanner.innerWeight_run_escaped_le
        rw [run_escape_doubleQuote_cons, List.count_cons_self]
        omega
      · have restLossless :
            lostBehind (scanner.step character).fragment.backslashes
              content = 0 := by
          rw [scanner.backslashes_step_of_ne isQuote,
            ← lostBehind_cons_of_ne _ isQuote, lossless]
        have rest := ih (Or.inl (scanner.isFilled_step_of_ne isQuote))
          restLossless
        have taken := innerWeight_step_of_ne_le
          (filled.imp_right And.left) isQuote
        rw [run_escape_cons_of_ne _ isQuote,
          List.count_cons_of_ne isQuote]
        omega

/-- In front of a text it does not matter whether a run of quotes has ended. -/
theorem run_escape_settled
    (finished : List (List Char)) (fragment : Fragment)
    {content : List Char} (nonempty : content ≠ []) (rest : List Char) :
    run ⟨finished, some fragment.settled⟩
        (content.flatMap escape ++ rest) =
      run ⟨finished, some fragment⟩ (content.flatMap escape ++ rest) := by
  obtain ⟨character, content, rfl⟩ := List.exists_cons_of_ne_nil nonempty
  by_cases isQuote : character = '"'
  · subst isQuote
    rw [run_escape_doubleQuote_cons, run_escape_doubleQuote_cons,
      run_cons, step_settled finished fragment (by decide)]
    rfl
  · rw [run_escape_cons_of_ne _ isQuote, run_escape_cons_of_ne _ isQuote,
      step_settled finished fragment isQuote]

theorem innerWeight_settled_lt
    (finished : List (List Char)) {fragment : Fragment}
    (closed : fragment.quoting = .closed) :
    innerWeight ⟨finished, some fragment.settled⟩ <
      innerWeight ⟨finished, some fragment⟩ := by
  have sameRead : readWeight ⟨finished, some fragment.settled⟩ =
      readWeight ⟨finished, some fragment⟩ := rfl
  have settled : fragment.settled.quoting = .outside := by
    rw [Fragment.settled, closed]
    rfl
  rw [innerWeight, innerWeight, sameRead, fragment_some, fragment_some,
    settled, closed]
  exact Nat.add_lt_add_left (by decide) _

/-- Whatever follows inside quotes is read inside out once they are closed. -/
theorem outerWeight_run_closed_lt
    (finished : List (List Char)) {fragment : Fragment}
    (closed : fragment.quoting = .closed)
    (filled : fragment.complete ≠ [])
    {content : List Char} (nonempty : content ≠ [])
    (lossless : lostBehind fragment.backslashes content = 0) :
    (run ⟨finished, some fragment⟩
        (content.flatMap escape ++ ['"'])).outerWeight <
      innerWeight ⟨finished, some fragment⟩ +
        2 * content.count '"' := by
  have stillFilled :
      IsFilled ⟨finished, some fragment.settled⟩ := by
    rintro _ ⟨⟩
    exact filled
  have rest := outerWeight_run_quoted_le (Or.inl stillFilled) lossless
  have turned := innerWeight_settled_lt finished closed
  rw [← run_escape_settled finished fragment nonempty]
  omega

/-- A text that is not safe inside quotes loses weight if no backslash. -/
theorem outerWeight_run_quoted_lt
    (finished : List (List Char)) {fragment : Fragment}
    (inside : fragment.quoting = .inside)
    {content : List Char}
    (lossless : lostBehind fragment.backslashes content = 0)
    (notSafe : isSafeBehind fragment.backslashes content = false) :
    (run ⟨finished, some fragment⟩
        (content.flatMap escape ++ ['"'])).outerWeight <
      innerWeight ⟨finished, some fragment⟩ +
        2 * content.count '"' := by
  induction content generalizing fragment with
  | nil =>
      rw [lostBehind] at lossless
      have decided : fragment.backslashes = 0 := by omega
      simp [isSafeBehind, decided] at notSafe
  | cons character content ih =>
      by_cases isQuote : character = '"'
      · subst isQuote
        rw [lostBehind_doubleQuote_cons] at lossless
        rw [Bool.eq_false_iff, ne_eq, isSafeBehind_doubleQuote_cons_iff]
          at notSafe
        have escaped :=
          innerWeight_run_escaped_le ⟨finished, some fragment⟩
        rw [run_some_escaped] at escaped
        rw [run_escape_doubleQuote_cons, run_some_escaped,
          List.count_cons_self]
        rcases Nat.eq_zero_or_pos fragment.backslashes with none | some
        · rw [Fragment.takeEscaped_of_inside inside none] at escaped ⊢
          have restNotSafe : isSafeBehind 0 content = false := by
            rw [Bool.eq_false_iff]
            exact fun safe => notSafe ⟨Or.inl none, safe⟩
          have rest := ih
            (show Fragment.quoting ⟨fragment.text ++ ['"'], 0, .inside⟩ =
              .inside from rfl)
            (by dsimp only; omega) restNotSafe
          omega
        · have single : fragment.backslashes = 1 := by omega
          have nonempty : content ≠ [] := by
            rintro rfl
            exact notSafe ⟨Or.inr ⟨single, rfl⟩, rfl⟩
          rw [Fragment.takeEscaped_of_single inside single] at escaped ⊢
          have rest := outerWeight_run_closed_lt finished
            (show Fragment.quoting ⟨fragment.text ++ ['\\'], 0, .closed⟩ =
              .closed from rfl)
            (by simp [Fragment.complete]) nonempty
            (by dsimp only; omega)
          omega
      · rcases step_inside finished inside isQuote with
          ⟨stays, stillInside⟩
        have rest := ih stillInside
          (by
            rw [fragment.backslashes_advance isQuote,
              ← lostBehind_cons_of_ne _ isQuote, lossless])
          (by rw [isSafeBehind_advance fragment isQuote, notSafe])
        have taken := innerWeight_step_of_ne_le
          (show IsFilled ⟨finished, some fragment⟩ ∨
            fragment.quoting = .inside from Or.inr inside) isQuote
        rw [stays] at taken
        rw [run_escape_cons_of_ne _ isQuote, stays,
          List.count_cons_of_ne isQuote]
        omega

end Scanner

end WindowedLauncher.CommandLine
