/-!
# The alphabets of command lines

Four symbols have a meaning on a command line: space, tab, double quote and
backslash.  An alphabet is a type of symbols in which these four are told
apart; UTF-16 units and characters are the two that are used.  Everything else
about quoting is stated over any alphabet.
-/

namespace WindowedLauncher.CommandLine

/-- A type of symbols with the four that a command line treats specially. -/
class Alphabet (α : Type) where
  space : α
  tab : α
  doubleQuote : α
  /-- Takes the meaning from a double quote that follows it. -/
  backslash : α
  distinct : [space, tab, doubleQuote, backslash].Nodup

instance : Alphabet Char where
  space := ' '
  tab := '\t'
  doubleQuote := '"'
  backslash := '\\'
  distinct := by decide

instance : Alphabet UInt16 where
  space := 0x20
  tab := 0x09
  doubleQuote := 0x22
  backslash := 0x5C
  distinct := by decide

export Alphabet (space tab doubleQuote backslash)

variable {α : Type} [Alphabet α]

/-- The two symbols that work together are told apart. -/
@[simp]
theorem backslash_ne_doubleQuote : (backslash : α) ≠ doubleQuote := by
  have distinct := Alphabet.distinct (α := α)
  simp only [List.nodup_cons, List.mem_cons, not_or] at distinct
  exact Ne.symm distinct.2.2.1.1

variable [DecidableEq α]

/-- The symbols that separate arguments outside quotes. -/
def isBlank (symbol : α) : Bool :=
  symbol = space || symbol = tab

/-- The symbols for whose sake an argument is put into quotes. -/
def needsQuoting (symbol : α) : Bool :=
  isBlank symbol || symbol = doubleQuote

/-- A blank is a space or a tab. -/
theorem isBlank_iff (symbol : α) :
    isBlank symbol = true ↔ symbol = space ∨ symbol = tab := by
  simp [isBlank]

/-- A double quote needs quoting as a blank does. -/
theorem needsQuoting_iff (symbol : α) :
    needsQuoting symbol = true ↔
      symbol = space ∨ symbol = tab ∨ symbol = doubleQuote := by
  simp [needsQuoting, isBlank, or_assoc]

@[simp]
theorem isBlank_space : isBlank (space : α) = true := by
  simp [isBlank]

@[simp]
theorem isBlank_tab : isBlank (tab : α) = true := by
  simp [isBlank]

/-- A double quote does not separate arguments. -/
@[simp]
theorem isBlank_doubleQuote : isBlank (doubleQuote : α) = false := by
  have distinct := Alphabet.distinct (α := α)
  simp only [List.nodup_cons, List.mem_cons, not_or] at distinct
  simp [isBlank, Ne.symm distinct.1.2.1, Ne.symm distinct.2.1.1]

/-- A backslash does not separate arguments. -/
@[simp]
theorem isBlank_backslash : isBlank (backslash : α) = false := by
  have distinct := Alphabet.distinct (α := α)
  simp only [List.nodup_cons, List.mem_cons, not_or] at distinct
  simp [isBlank, Ne.symm distinct.1.2.2.1, Ne.symm distinct.2.1.2.1]

end WindowedLauncher.CommandLine
