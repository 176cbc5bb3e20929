import Mathlib.Data.List.TakeWhile
import WindowedLauncher.CommandLine.Quoted
import WindowedLauncher.CommandLine.Split

/-!
# Command lines as they are written

A command line is a quoted program followed by `written` arguments, each
behind a space.  The text behind any argument is therefore empty or starts
with a space.  `programAndRest_ofArguments` reads the program back off a
command line if it holds no double quote.
-/

namespace WindowedLauncher.CommandLine

section AnyAlphabet

variable {α : Type} [Alphabet α] [DecidableEq α]

/-- Arguments as they are written on a command line, each behind a space. -/
def written (arguments : List (List α)) : List α :=
  arguments.flatMap (fun argument => space :: quote argument)

@[simp]
theorem written_nil : written ([] : List (List α)) = [] :=
  rfl

@[simp]
theorem written_cons (argument : List α) (arguments : List (List α)) :
    written (argument :: arguments) =
      space :: (quote argument ++ written arguments) :=
  rfl

theorem written_append (first second : List (List α)) :
    written (first ++ second) = written first ++ written second :=
  List.flatMap_append

/-- A line is the quoted program, with the arguments behind it. -/
theorem ofArguments_eq_quote_append_written
    (program : List α) (arguments : List (List α)) :
    ofArguments program arguments = quote program ++ written arguments :=
  rfl

@[simp]
theorem space_ne_doubleQuote : (space : α) ≠ doubleQuote := by
  intro equal
  have blank := isBlank_space (α := α)
  rw [equal, isBlank_doubleQuote] at blank
  exact absurd blank (by decide)

@[simp]
theorem space_ne_backslash : (space : α) ≠ backslash := by
  intro equal
  have blank := isBlank_space (α := α)
  rw [equal, isBlank_backslash] at blank
  exact absurd blank (by decide)

/-- What is written as it is: at least one symbol, no blank, no quote. -/
theorem isWrapped_eq_false_iff (argument : List α) :
    isWrapped argument = false ↔
      argument ≠ [] ∧ ∀ symbol ∈ argument,
        isBlank symbol = false ∧ symbol ≠ doubleQuote := by
  simp [isWrapped, needsQuoting]

/-- An argument goes without quotes if it is not empty and nothing in it needs
them. -/
theorem isWrapped_eq_false_iff_needsQuoting (argument : List α) :
    isWrapped argument = false ↔
      argument ≠ [] ∧ ∀ symbol ∈ argument, needsQuoting symbol = false := by
  simp [isWrapped]

theorem isWrapped_of_mem
    {argument : List α} (quoted : doubleQuote ∈ argument) :
    isWrapped argument = true := by
  rw [isWrapped, Bool.or_eq_true, List.any_eq_true]
  exact Or.inr ⟨doubleQuote, quoted, by simp [needsQuoting]⟩

theorem isBlank_of_not_isWrapped
    {argument : List α} (plain : isWrapped argument = false) :
    ∀ symbol ∈ argument, isBlank symbol = false := by
  intro symbol member
  exact (((isWrapped_eq_false_iff argument).mp plain).2 symbol member).1

theorem ne_doubleQuote_of_not_isWrapped
    {argument : List α} (plain : isWrapped argument = false) :
    ∀ symbol ∈ argument, symbol ≠ doubleQuote := by
  intro symbol member
  exact (((isWrapped_eq_false_iff argument).mp plain).2 symbol member).2

theorem takeWhile_append_written
    {text : List α} (solid : ∀ symbol ∈ text, isBlank symbol = false)
    (arguments : List (List α)) :
    (text ++ written arguments).takeWhile (!isBlank ·) = text := by
  rw [List.takeWhile_append_of_pos (by simpa using solid)]
  cases arguments <;> simp

theorem dropWhile_append_written
    {text : List α} (solid : ∀ symbol ∈ text, isBlank symbol = false)
    (arguments : List (List α)) :
    (text ++ written arguments).dropWhile (!isBlank ·) =
      written arguments := by
  rw [List.dropWhile_append_of_pos (by simpa using solid)]
  cases arguments <;> simp

theorem flatMap_escape_doubleQuote_cons (text : List α) :
    (doubleQuote :: text).flatMap escape =
      backslash :: doubleQuote :: text.flatMap escape := by
  rw [List.flatMap_cons, escape_doubleQuote]
  rfl

theorem flatMap_escape_cons_of_ne
    {symbol : α} (noQuote : symbol ≠ doubleQuote) (text : List α) :
    (symbol :: text).flatMap escape = symbol :: text.flatMap escape := by
  rw [List.flatMap_cons, escape_of_ne noQuote]
  rfl

theorem flatMap_escape_of_not_mem
    {text : List α} (noQuote : doubleQuote ∉ text) :
    text.flatMap escape = text := by
  induction text with
  | nil => rfl
  | cons symbol text ih =>
      rcases not_or.mp (mt List.mem_cons.mpr noQuote) with
        ⟨differs, restClean⟩
      rw [flatMap_escape_cons_of_ne (Ne.symm differs), ih restClean]

/-! ## What quoting inserts -/

section Filter

variable {keeps : α → Bool}
variable (noQuote : keeps doubleQuote = false)
variable (noBackslash : keeps backslash = false)

include noQuote noBackslash

/-- Escaping adds nothing that is kept. -/
theorem filter_escape (symbol : α) :
    (escape symbol).filter keeps = [symbol].filter keeps := by
  by_cases isQuote : symbol = doubleQuote
  · subst isQuote
    simp [noQuote, noBackslash]
  · rw [escape_of_ne isQuote]

/-- What is neither a double quote nor a backslash is only carried along by
quoting. -/
theorem filter_quote (argument : List α) :
    (quote argument).filter keeps = argument.filter keeps := by
  cases wrapped : isWrapped argument with
  | true =>
      have escaped : (argument.flatMap escape).filter keeps =
          argument.filter keeps := by
        rw [List.filter_flatMap]
        simp only [filter_escape noQuote noBackslash]
        rw [← List.filter_flatMap, List.flatMap_singleton']
      have noQuotes : [doubleQuote].filter keeps = [] := by
        simp [noQuote]
      rw [quote_of_isWrapped wrapped,
        List.filter_cons_of_neg (by simp [noQuote]), List.filter_append,
        escaped, noQuotes, List.append_nil]
  | false => rw [quote_of_not_isWrapped wrapped]

/-- Of written arguments all is kept that was kept of them. -/
theorem filter_written
    (noSpace : keeps space = false) (arguments : List (List α)) :
    (written arguments).filter keeps = arguments.flatten.filter keeps := by
  induction arguments with
  | nil => rfl
  | cons argument arguments ih =>
      rw [written_cons, List.filter_cons_of_neg (by simp [noSpace]),
        List.filter_append, filter_quote noQuote noBackslash, ih,
        List.flatten_cons, List.filter_append]

end Filter

end AnyAlphabet

/-! ## Argument 0 -/

theorem programAndRest_doubleQuote_cons (text : List Char) :
    programAndRest ('"' :: text) =
      (text.takeWhile (· ≠ '"'), (text.dropWhile (· ≠ '"')).tail) :=
  rfl

theorem programAndRest_of_head_ne
    {line : List Char} (noQuote : line.head? ≠ some '"') :
    programAndRest line =
      (line.takeWhile (!isBlank ·), line.dropWhile (!isBlank ·)) := by
  unfold programAndRest
  split
  · exact absurd rfl noQuote
  · rfl

/-- A program without a double quote is read back from its command line. -/
theorem programAndRest_ofArguments
    {program : List Char} (noQuote : doubleQuote ∉ program)
    (arguments : List (List Char)) :
    programAndRest (ofArguments program arguments) =
      (program, written arguments) := by
  rw [ofArguments_eq_quote_append_written]
  cases wrapped : isWrapped program with
  | true =>
      have different : ∀ symbol ∈ program,
          decide (symbol ≠ '"') = true := by
        intro symbol member
        rw [decide_eq_true_eq]
        rintro rfl
        exact noQuote member
      rw [quote_of_isWrapped wrapped, flatMap_escape_of_not_mem noQuote,
        List.cons_append, List.append_assoc, List.singleton_append]
      refine (programAndRest_doubleQuote_cons _).trans ?_
      rw [List.takeWhile_append_of_pos different,
        List.dropWhile_append_of_pos different,
        List.takeWhile_cons_of_neg (by decide),
        List.dropWhile_cons_of_neg (by decide), List.append_nil,
        List.tail_cons]
  | false =>
      have solid := isBlank_of_not_isWrapped wrapped
      have opensPlain :
          (program ++ written arguments).head? ≠ some '"' := by
        rcases List.exists_cons_of_ne_nil
          ((isWrapped_eq_false_iff program).mp wrapped).1 with
          ⟨symbol, rest, rfl⟩
        intro opensQuoted
        exact ne_doubleQuote_of_not_isWrapped wrapped symbol
          List.mem_cons_self (Option.some.inj opensQuoted)
      rw [quote_of_not_isWrapped wrapped,
        programAndRest_of_head_ne opensPlain,
        takeWhile_append_written solid, dropWhile_append_written solid]

/-- A program with a double quote is not read back. -/
theorem programAndRest_ofArguments_ne
    {program : List Char} (quoted : doubleQuote ∈ program)
    (arguments : List (List Char)) :
    (programAndRest (ofArguments program arguments)).1 ≠ program := by
  rw [ofArguments_eq_quote_append_written,
    quote_of_isWrapped (isWrapped_of_mem quoted)]
  change List.takeWhile _ _ ≠ program
  intro same
  rw [← same] at quoted
  have stopped := List.mem_takeWhile_imp quoted
  exact absurd stopped (by decide)

end WindowedLauncher.CommandLine
