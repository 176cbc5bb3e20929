import WindowedLauncher.CommandLine.Alphabet

/-!
# Quoting arguments

`quote` writes one argument: in double quotes if it is empty or holds a blank
or a double quote, each double quote inside behind a backslash, and as it is
otherwise.  Backslashes are never doubled.  `ofArguments` joins a program and
its arguments with single spaces.  Main statements: `quote_eq_self_iff` (what
is written as it is) and `length_quote` (what quoting adds).
-/

namespace WindowedLauncher.CommandLine

variable {α : Type} [Alphabet α] [DecidableEq α]

/-- One symbol inside quotes: a backslash goes before a double quote, all else
is copied. -/
def escape (symbol : α) : List α :=
  if symbol = doubleQuote then [backslash, doubleQuote] else [symbol]

/-- An argument that cannot stand on a command line as it is. -/
def isWrapped (argument : List α) : Bool :=
  argument.isEmpty || argument.any needsQuoting

/-- An argument as it is written on a command line. -/
def quote (argument : List α) : List α :=
  if isWrapped argument then
    doubleQuote :: (argument.flatMap escape ++ [doubleQuote])
  else
    argument

/-- The command line of a program and its arguments, joined by single spaces. -/
def ofArguments (program : List α) (arguments : List (List α)) : List α :=
  quote program ++ arguments.flatMap (fun argument => space :: quote argument)

/-- The arguments that are handed on: all but argument 0, the name a program
was started by. -/
def handedOn {β : Type} (argv : List β) : List β :=
  argv.tail

/-- The results of quoting an argument once, twice and so on, as many times as
asked for. -/
def requoted : Nat → List α → List (List α)
  | 0, _ => []
  | times + 1, argument => quote argument :: requoted times (quote argument)

/-- A double quote is written behind a backslash. -/
@[simp]
theorem escape_doubleQuote :
    escape (doubleQuote : α) = [backslash, doubleQuote] := by
  simp [escape]

/-- Every other symbol is copied. -/
theorem escape_of_ne {symbol : α} (ordinary : symbol ≠ doubleQuote) :
    escape symbol = [symbol] := by
  simp [escape, ordinary]

/-- What is wrapped stands between two double quotes. -/
theorem quote_of_isWrapped
    {argument : List α} (wrapped : isWrapped argument = true) :
    quote argument =
      doubleQuote :: (argument.flatMap escape ++ [doubleQuote]) := by
  simp [quote, wrapped]

/-- What is not wrapped is written as it is. -/
theorem quote_of_not_isWrapped
    {argument : List α} (plain : isWrapped argument = false) :
    quote argument = argument := by
  simp [quote, plain]

@[simp]
theorem ofArguments_nil (program : List α) :
    ofArguments program [] = quote program := by
  simp [ofArguments]

/-- One more argument is written behind one more space. -/
theorem ofArguments_append_singleton
    (program : List α)
    (arguments : List (List α))
    (last : List α) :
    ofArguments program (arguments ++ [last]) =
      ofArguments program arguments ++ space :: quote last := by
  simp [ofArguments]

/-- Each double quote inside an argument is written with one symbol more. -/
theorem length_flatMap_escape (argument : List α) :
    (argument.flatMap escape).length =
      argument.length + argument.count doubleQuote := by
  induction argument with
  | nil => rfl
  | cons symbol rest ih =>
    by_cases isQuote : symbol = doubleQuote
    · subst isQuote
      simp only [List.flatMap_cons, escape_doubleQuote, List.length_append,
        List.length_cons, List.length_nil, ih, List.count_cons_self]
      omega
    · simp only [List.flatMap_cons, escape_of_ne isQuote, List.length_append,
        List.length_cons, List.length_nil, ih, List.count_cons_of_ne isQuote]
      omega

/-- Quoting a wrapped argument adds two quotes and one backslash for each
double quote inside. -/
theorem length_quote {argument : List α} (wrapped : isWrapped argument = true) :
    (quote argument).length =
      argument.length + argument.count doubleQuote + 2 := by
  rw [quote_of_isWrapped wrapped, List.length_cons, List.length_append,
    length_flatMap_escape, List.length_singleton]

/-- Exactly the arguments without need for quotes are written as they are. -/
theorem quote_eq_self_iff (argument : List α) :
    quote argument = argument ↔ isWrapped argument = false := by
  constructor
  · intro same
    by_cases wrapped : isWrapped argument = true
    · have length := length_quote wrapped
      rw [same] at length
      omega
    · simpa using wrapped
  · exact quote_of_not_isWrapped

end WindowedLauncher.CommandLine
