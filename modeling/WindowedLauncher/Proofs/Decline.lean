import Mathlib.Data.Prod.Lex
import WindowedLauncher.Proofs.Weight

/-!
# Unfaithful arguments decline

What is delivered never holds more backslashes than what was written.  If no
backslash is lost, an unfaithful argument costs double quotes: the backslash
that lets a double quote through turns the rest of the line inside out.  So
the `rank` of the arguments drops unless all of them are faithful
(`rank_delivered_lt`), and whoever hands on what it was handed comes to
faithful arguments in the end (`exists_iterate_delivered_faithful`).
-/

namespace WindowedLauncher.CommandLine

namespace Scanner

/-! ## Whole arguments -/

/-- Behind a space: between arguments, or inside the quotes of one. -/
inductive IsBehindSpace : Scanner → Prop where
  | between (finished : List (List Char)) :
      IsBehindSpace ⟨finished, none⟩
  | inside (finished : List (List Char))
      {text : List Char} (nonempty : text ≠ []) :
      IsBehindSpace ⟨finished, some ⟨text, 0, .inside⟩⟩

theorem outerWeight_inside
    (finished : List (List Char)) {fragment : Fragment}
    (inside : fragment.quoting = .inside) :
    outerWeight ⟨finished, some fragment⟩ =
      readWeight ⟨finished, some fragment⟩ + 1 := by
  simp [outerWeight, credit, inside]

/-- A space leads to a place behind it, and adds no weight. -/
theorem step_space
    (scanner : Scanner) :
    (scanner.step space).IsBehindSpace ∧
      (scanner.step space).outerWeight ≤ scanner.outerWeight := by
  by_cases outside : scanner.IsOutside
  · have ended : scanner.step space = ⟨scanner.result, none⟩ :=
      step_space_of_isOutside outside
    rw [ended, outerWeight_cut]
    exact ⟨.between _, scanner.weight_result_le⟩
  · have stays : ¬ scanner.EndsAt space := by
      intro ends
      exact outside ends.2
    have sameRead :
        (scanner.step space).readWeight = scanner.readWeight :=
      readWeight_step_of_not_endsAt (by decide) stays
    rcases scanner with ⟨finished, none | fragment⟩
    · exact absurd (isOutside_between finished) outside
    have inside : fragment.quoting = .inside :=
      (not_isOutside_iff _).mp outside
    have spaced : step ⟨finished, some fragment⟩ space =
        ⟨finished, some ⟨fragment.complete ++ [' '], 0, .inside⟩⟩ := by
      rw [step_of_not_endsAt stays, fragment_some, Fragment.advance,
        inside]
      rfl
    rw [outerWeight_inside finished inside, ← sameRead, spaced,
      outerWeight_inside finished rfl]
    exact ⟨.inside finished (by simp), Nat.le_refl _⟩

theorem innerWeight_opened (finished : List (List Char)) :
    innerWeight ⟨finished, some ⟨[], 0, .inside⟩⟩ = weight finished := by
  simp [innerWeight, readWeight, weight, result, Quoting.debt,
    Fragment.complete]

/-- Behind a space an argument that needs no quotes adds no weight. -/
theorem outerWeight_run_plain_le
    {scanner : Scanner} (behindSpace : scanner.IsBehindSpace)
    {argument : List Char} (plain : isWrapped argument = false) :
    (scanner.run argument).outerWeight ≤ scanner.outerWeight := by
  rcases (isWrapped_eq_false_iff argument).mp plain with
    ⟨nonempty, plainSymbols⟩
  have noQuote : '"' ∉ argument :=
    fun member => (plainSymbols '"' member).2 rfl
  have counted := scanner.count_run_of_not_mem noQuote
    (show isBlank '"' = false by decide)
  rw [List.count_eq_zero_of_not_mem noQuote, Nat.add_zero] at counted
  rw [outerWeight, outerWeight, readWeight, readWeight, counted]
  cases behindSpace with
  | between finished =>
      obtain ⟨after, ran, complete, outside⟩ :=
        run_between_plain finished plain
      have notInside : after.quoting ≠ .inside := by
        intro inside
        rw [inside] at outside
        exact absurd outside (by decide)
      have taken : after.complete ≠ [] := by
        rw [complete]
        exact nonempty
      rw [ran]
      simp [credit, notInside, taken]
  | inside finished textLeft =>
      obtain ⟨after, ran, -, -⟩ := run_plain finished _ plainSymbols
      rw [ran]
      apply Nat.add_le_add_left
      simp only [credit]
      split
      · simp
      · exact Nat.zero_le _

/-- A wrapped argument between arguments opens its own quotes. -/
theorem outerWeight_run_wrapped_between_le
    (finished : List (List Char))
    {argument : List Char} (lossless : lostBehind 0 argument = 0) :
    ((step ⟨finished, none⟩ '"').run
        (argument.flatMap escape ++ ['"'])).outerWeight ≤
      outerWeight ⟨finished, none⟩ + weight [argument] := by
  rw [step_between_doubleQuote, outerWeight_cut, weight_singleton]
  by_cases empty : argument = []
  · subst empty
    simp [outerWeight, readWeight, credit, weight, result,
      Fragment.takeDoubleQuote, Fragment.complete]
  · have quoted := outerWeight_run_quoted_le
      (show IsFilled ⟨finished, some ⟨[], 0, .inside⟩⟩ ∨ _ from
        Or.inr ⟨rfl, empty⟩) lossless
    rw [innerWeight_opened] at quoted
    exact quoted.trans (by omega)

/-- A wrapped argument inside the quotes of another one closes them. -/
theorem outerWeight_run_wrapped_inside_le
    (finished : List (List Char))
    {text : List Char} (nonempty : text ≠ [])
    {argument : List Char} (lossless : lostBehind 0 argument = 0) :
    ((step ⟨finished, some ⟨text, 0, .inside⟩⟩ '"').run
        (argument.flatMap escape ++ ['"'])).outerWeight ≤
      outerWeight ⟨finished, some ⟨text, 0, .inside⟩⟩ +
        weight [argument] := by
  have closed : step ⟨finished, some ⟨text, 0, .inside⟩⟩ '"' =
      ⟨finished, some ⟨text, 0, .closed⟩⟩ := by
    simp [Fragment.takeDoubleQuote]
  have owed : innerWeight ⟨finished, some ⟨text, 0, .closed⟩⟩ =
      outerWeight ⟨finished, some ⟨text, 0, .inside⟩⟩ + 1 := by
    simp [innerWeight, outerWeight, readWeight, credit, result,
      Quoting.debt, Fragment.complete]
  have filled : (Fragment.mk text 0 .closed).complete ≠ [] := by
    simpa [Fragment.complete] using nonempty
  rw [closed, weight_singleton]
  by_cases empty : argument = []
  · subst empty
    have ended := outerWeight_close_le
      (show IsFilled ⟨finished, some ⟨text, 0, .closed⟩⟩ by
        rintro _ ⟨⟩
        exact filled) rfl
    simp only [List.flatMap_nil, List.nil_append, run_cons, run_nil,
      List.count_nil, if_pos]
    omega
  · have quoted := outerWeight_run_closed_lt finished
      (show (Fragment.mk text 0 .closed).quoting = .closed from rfl)
      filled empty lossless
    rw [if_neg empty]
    omega

/-- An argument that loses no backslash adds at most its own weight. -/
theorem outerWeight_run_quote_le
    {scanner : Scanner} (behindSpace : scanner.IsBehindSpace)
    {argument : List Char} (lossless : lost argument = 0) :
    (scanner.run (quote argument)).outerWeight ≤
      scanner.outerWeight + weight [argument] := by
  cases wrapped : isWrapped argument with
  | true =>
      rw [lost, if_pos wrapped] at lossless
      rw [run_quote_of_isWrapped _ wrapped]
      cases behindSpace with
      | between finished =>
          exact outerWeight_run_wrapped_between_le finished lossless
      | inside finished nonempty =>
          exact outerWeight_run_wrapped_inside_le finished nonempty
            lossless
  | false =>
      rw [quote_of_not_isWrapped wrapped]
      exact (outerWeight_run_plain_le behindSpace wrapped).trans
        (Nat.le_add_right _ _)

theorem isWrapped_of_not_isFaithful
    {argument : List Char} (unfaithful : ¬ IsFaithful argument) :
    isWrapped argument = true := by
  by_contra notWrapped
  apply unfaithful
  rw [← isFaithful_iff, isFaithful]
  simp only [isWrapped, Bool.or_eq_true, not_or, Bool.not_eq_true]
    at notWrapped
  rw [notWrapped.2]
  rfl

theorem isSafeBehind_of_not_isFaithful
    {argument : List Char} (unfaithful : ¬ IsFaithful argument) :
    isSafeBehind 0 argument = false := by
  rw [← isFaithful_iff, isFaithful, Bool.or_eq_true, not_or] at unfaithful
  exact Bool.eq_false_iff.mpr unfaithful.2

/-- An unfaithful argument that begins outside quotes adds less than its
weight. -/
theorem outerWeight_run_quote_lt
    {scanner : Scanner} (outside : scanner.IsOutside)
    {argument : List Char} (lossless : lost argument = 0)
    (unfaithful : ¬ IsFaithful argument) :
    ((scanner.step space).run (quote argument)).outerWeight <
      scanner.outerWeight + weight [argument] := by
  have wrapped := isWrapped_of_not_isFaithful unfaithful
  rw [lost, if_pos wrapped] at lossless
  have ended : scanner.step space = ⟨scanner.result, none⟩ :=
    step_space_of_isOutside outside
  have quoted := outerWeight_run_quoted_lt scanner.result
    (show Fragment.quoting ⟨[], 0, .inside⟩ = .inside from rfl)
    lossless (isSafeBehind_of_not_isFaithful unfaithful)
  have before := scanner.weight_result_le
  have counted := weight_singleton argument
  rw [innerWeight_opened] at quoted
  rw [ended, run_quote_of_isWrapped _ wrapped, step_between_doubleQuote]
  omega

/-! ## Lists of arguments -/

theorem outerWeight_run_written_le
    (scanner : Scanner) {arguments : List (List Char)}
    (lossless : ∀ argument ∈ arguments, lost argument = 0) :
    (scanner.run (written arguments)).outerWeight ≤
      scanner.outerWeight + weight arguments := by
  induction arguments generalizing scanner with
  | nil => exact Nat.le_refl _
  | cons argument arguments ih =>
      rcases List.forall_mem_cons.mp lossless with
        ⟨headLossless, restLossless⟩
      rcases scanner.step_space with ⟨behindSpace, spaced⟩
      have quoted := outerWeight_run_quote_le behindSpace headLossless
      have rest :=
        ih ((scanner.step space).run (quote argument)) restLossless
      rw [written_cons, run_cons, run_append, weight_cons]
      exact rest.trans (by omega)

/--
The first unfaithful argument loses weight, and no argument behind it regains
any.
-/
theorem outerWeight_run_written_lt
    {scanner : Scanner} (outside : scanner.IsOutside)
    {arguments : List (List Char)}
    (lossless : ∀ argument ∈ arguments, lost argument = 0)
    (unfaithful : ∃ argument ∈ arguments, ¬ IsFaithful argument) :
    (scanner.run (written arguments)).outerWeight <
      scanner.outerWeight + weight arguments := by
  induction arguments generalizing scanner with
  | nil => simp at unfaithful
  | cons argument arguments ih =>
      rcases List.forall_mem_cons.mp lossless with
        ⟨headLossless, restLossless⟩
      rw [written_cons, run_cons, run_append, weight_cons]
      by_cases faithful : IsFaithful argument
      · have restUnfaithful :
            ∃ argument ∈ arguments, ¬ IsFaithful argument := by
          rcases unfaithful with ⟨found, member, notFaithful⟩
          rcases List.mem_cons.mp member with rfl | later
          · exact absurd faithful notFaithful
          · exact ⟨found, later, notFaithful⟩
        obtain ⟨fragment, ran, -, closed⟩ :=
          run_quote_of_faithful scanner.result faithful
        have next :
            (⟨scanner.result, some fragment⟩ : Scanner).IsOutside :=
          closed
        have ended : scanner.step space = ⟨scanner.result, none⟩ :=
          step_space_of_isOutside outside
        have quoted := outerWeight_run_quote_le
          (.between scanner.result) headLossless
        have before := scanner.weight_result_le
        have rest := ih next restLossless restUnfaithful
        rw [ran, outerWeight_cut] at quoted
        rw [ended, ran]
        omega
      · have quoted :=
          outerWeight_run_quote_lt outside headLossless faithful
        have rest := outerWeight_run_written_le
          ((scanner.step space).run (quote argument)) restLossless
        omega

end Scanner

/-- If no backslash is lost, unfaithful arguments are delivered with less
weight. -/
theorem weight_delivered_lt
    {arguments : List (List Char)}
    (lossless : ∀ argument ∈ arguments, lost argument = 0)
    (unfaithful : ∃ argument ∈ arguments, ¬ IsFaithful argument) :
    weight (delivered arguments) < weight arguments := by
  have read := (Scanner.start.run (written arguments)).weight_result_le
  have lighter := Scanner.outerWeight_run_written_lt
    (Scanner.isOutside_between []) lossless unfaithful
  have unread : Scanner.outerWeight ⟨[], none⟩ = 0 := rfl
  rw [unread, Nat.zero_add] at lighter
  exact read.trans_lt lighter

/-! ## The rank of a list of arguments -/

/-- Backslashes come first, and the weight of the quotes behind them. -/
def rank (arguments : List (List Char)) : Nat ×ₗ Nat :=
  toLex (arguments.flatten.count '\\', weight arguments)

/-- A delivery that is not faithful has a lower rank. -/
theorem rank_delivered_lt
    {arguments : List (List Char)}
    (unfaithful : ∃ argument ∈ arguments, ¬ IsFaithful argument) :
    rank (delivered arguments) < rank arguments := by
  have counted := count_backslash_delivered arguments
  rw [rank, rank, Prod.Lex.toLex_lt_toLex]
  rcases Nat.eq_zero_or_pos (arguments.map lost).sum with
    noneLost | someLost
  · have lossless : ∀ argument ∈ arguments, lost argument = 0 := by
      intro argument member
      exact List.sum_eq_zero_iff_forall_eq_nat.mp noneLost _
        (List.mem_map_of_mem member)
    exact Or.inr ⟨by dsimp only; omega,
      weight_delivered_lt lossless unfaithful⟩
  · exact Or.inl (by dsimp only; omega)

/-- Exactly the faithful arguments are delivered as they were given. -/
theorem delivered_eq_iff (arguments : List (List Char)) :
    delivered arguments = arguments ↔
      ∀ argument ∈ arguments, IsFaithful argument := by
  constructor
  · intro same
    by_contra notAll
    have unfaithful : ∃ argument ∈ arguments, ¬ IsFaithful argument := by
      simpa using notAll
    have smaller := rank_delivered_lt unfaithful
    rw [same] at smaller
    exact lt_irrefl _ smaller
  · exact delivered_of_faithful

/-- Arguments that are delivered again and again become faithful. -/
theorem exists_iterate_delivered_faithful
    (arguments : List (List Char)) :
    ∃ times : Nat,
      ∀ argument ∈ delivered^[times] arguments, IsFaithful argument := by
  -- Along the ranks: a delivery that is not faithful is of a lower one.
  induction arguments using (InvImage.wf rank wellFounded_lt).induction with
  | _ arguments ih =>
      by_cases faithful : ∀ argument ∈ arguments, IsFaithful argument
      · exact ⟨0, faithful⟩
      · have unfaithful :
            ∃ argument ∈ arguments, ¬ IsFaithful argument := by
          simpa using faithful
        obtain ⟨times, settled⟩ :=
          ih (delivered arguments) (rank_delivered_lt unfaithful)
        exact ⟨times + 1, settled⟩

end WindowedLauncher.CommandLine
