import Mathlib.Logic.Function.Iterate
import Mathlib.Tactic.Ring
import WindowedLauncher.Proofs.Written
import WindowedLauncher.WideString

/-!
# Quoting what is already quoted

An argument that needs no quotes is written as it is, however often it is
quoted.  Any other argument comes back in quotes, and so needs them again:
each round escapes all the double quotes of the round before and adds two of
its own.  Their number grows with the rounds, and the length with the square
of the rounds (`iterate_quote`).
-/

namespace WindowedLauncher.CommandLine

open WideString

section AnyAlphabet

variable {α : Type} [Alphabet α] [DecidableEq α]

/-! ## One round -/

/-- What is in quotes needs them again. -/
theorem isWrapped_quote
    {argument : List α} (wrapped : isWrapped argument = true) :
    isWrapped (quote argument) = true := by
  rw [quote_of_isWrapped wrapped]
  exact isWrapped_of_mem List.mem_cons_self

theorem count_doubleQuote_escape (symbol : α) :
    (escape symbol).count doubleQuote = [symbol].count doubleQuote := by
  by_cases isQuote : symbol = doubleQuote
  · subst isQuote
    rw [escape_doubleQuote, List.count_cons_of_ne backslash_ne_doubleQuote]
  · rw [escape_of_ne isQuote]

/-- Escaping neither adds nor removes a double quote. -/
theorem count_doubleQuote_flatMap_escape (argument : List α) :
    (argument.flatMap escape).count doubleQuote =
      argument.count doubleQuote := by
  induction argument with
  | nil => rfl
  | cons symbol rest ih =>
      rw [List.flatMap_cons, List.count_append, count_doubleQuote_escape,
        ih, ← List.count_append, List.singleton_append]

/-- Quoting adds two quotes to an argument that is wrapped. -/
theorem count_doubleQuote_quote
    {argument : List α} (wrapped : isWrapped argument = true) :
    (quote argument).count doubleQuote =
      argument.count doubleQuote + 2 := by
  rw [quote_of_isWrapped wrapped, List.count_cons_self, List.count_append,
    count_doubleQuote_flatMap_escape, List.count_singleton_self]

/-! ## Any number of rounds -/

/-- The list of all rounds holds what each number of them gives. -/
theorem requoted_eq_map (times : Nat) (argument : List α) :
    requoted times argument =
      (List.range times).map (fun round => quote^[round + 1] argument) := by
  induction times generalizing argument with
  | zero => rfl
  | succ times ih =>
      rw [requoted, ih, List.range_succ_eq_map, List.map_cons, List.map_map]
      rfl

theorem isWrapped_iterate_quote
    {argument : List α} (wrapped : isWrapped argument = true)
    (times : Nat) :
    isWrapped (quote^[times] argument) = true := by
  induction times with
  | zero => exact wrapped
  | succ times ih =>
      rw [Function.iterate_succ_apply']
      exact isWrapped_quote ih

theorem count_doubleQuote_iterate_quote
    {argument : List α} (wrapped : isWrapped argument = true)
    (times : Nat) :
    (quote^[times] argument).count doubleQuote =
      argument.count doubleQuote + 2 * times := by
  induction times with
  | zero => rfl
  | succ times ih =>
      rw [Function.iterate_succ_apply',
        count_doubleQuote_quote (isWrapped_iterate_quote wrapped times), ih,
        Nat.mul_succ, Nat.add_assoc]

/-- Each round pays for the double quotes of all the rounds before it. -/
theorem length_iterate_quote
    {argument : List α} (wrapped : isWrapped argument = true)
    (times : Nat) :
    (quote^[times] argument).length =
      argument.length + times * argument.count doubleQuote +
        times * (times + 1) := by
  induction times with
  | zero => simp
  | succ times ih =>
      rw [Function.iterate_succ_apply',
        length_quote (isWrapped_iterate_quote wrapped times), ih,
        count_doubleQuote_iterate_quote wrapped]
      ring

end AnyAlphabet

/--
Quoted any number of times, an argument that is not empty and has no blank or
double quote stays as it is.  Any other argument gains two double quotes each
time, and its length grows by the closed form.
-/
theorem iterate_quote (argument : WideString) (times : Nat) :
    ((argument ≠ [] ∧ ∀ unit ∈ argument, needsQuoting unit = false) →
      quote^[times] argument = argument) ∧
    (¬ (argument ≠ [] ∧ ∀ unit ∈ argument, needsQuoting unit = false) →
      (quote^[times] argument).length =
          argument.length + times * argument.count doubleQuote +
            times * (times + 1) ∧
        (quote^[times] argument).count doubleQuote =
          argument.count doubleQuote + 2 * times) := by
  rw [← isWrapped_eq_false_iff_needsQuoting, Bool.not_eq_false]
  constructor
  · intro plain
    exact Function.iterate_fixed (quote_of_not_isWrapped plain) times
  · intro wrapped
    exact ⟨length_iterate_quote wrapped times,
      count_doubleQuote_iterate_quote wrapped times⟩

/-- Quoting three times leaves a plain word, and lets another argument grow. -/
theorem iterate_quote_sample :
    quote^[3] (ofString "dig") = ofString "dig" ∧
      (quote^[3] (ofString "b \"c")).length = 19 ∧
      (quote^[3] (ofString "b \"c")).count doubleQuote = 7 := by
  have bare := (isWrapped_eq_false_iff_needsQuoting (ofString "dig")).mp
    (by decide)
  have quoted := mt
    (isWrapped_eq_false_iff_needsQuoting (ofString "b \"c")).mpr (by decide)
  have grown := (iterate_quote (ofString "b \"c") 3).2 quoted
  exact ⟨(iterate_quote (ofString "dig") 3).1 bare,
    grown.1.trans (by decide), grown.2.trans (by decide)⟩

end WindowedLauncher.CommandLine
