import WindowedLauncher.CommandLine.Quoted
import WindowedLauncher.WideString

/-!
# Reading wide strings piece by piece

A piece of a wide string is a surrogate pair, or a unit that stands alone.
`readPieces` reads one after the other, for any meaning of the two kinds.  If a
meaning keeps the four special symbols apart from all else (`KeepsSyntax`), it
does not matter whether arguments are read before or after they are quoted
(`readPieces_ofArguments`).  The syntax that quoting inserts is no surrogate,
and so it neither takes a pair apart nor makes one.
-/

namespace WindowedLauncher.CommandLine

open WideString

/-! ## Pieces -/

/-- Whether a unit makes a surrogate pair with the first unit of a text. -/
def opensPair (unit : UInt16) (rest : WideString) : Bool :=
  isHighSurrogate unit && rest.head?.any isLowSurrogate

/-- Reads a wide string: each surrogate pair as a whole, all other units one
by one. -/
def readPieces
    {β : Type} (alone : UInt16 → β) (pair : UInt16 → UInt16 → β) :
    WideString → List β
  | [] => []
  | [unit] => [alone unit]
  | unit :: next :: rest =>
    if isHighSurrogate unit && isLowSurrogate next then
      pair unit next :: readPieces alone pair rest
    else
      alone unit :: readPieces alone pair (next :: rest)

/-- A wide string is read one unit or one surrogate pair at a time. -/
@[elab_as_elim]
theorem wideString_induction
    {motive : WideString → Prop}
    (nil : motive [])
    (alone : ∀ unit rest, opensPair unit rest = false →
      motive rest → motive (unit :: rest))
    (pair : ∀ high low rest, isHighSurrogate high = true →
      isLowSurrogate low = true →
        motive rest → motive (high :: low :: rest))
    (string : WideString) :
    motive string := by
  induction string using decode.induct with
  | case1 => exact nil
  | case2 unit =>
      exact alone unit [] (by simp [opensPair]) nil
  | case3 high low rest paired ih =>
      rcases Bool.and_eq_true_iff.mp paired with ⟨isHigh, isLow⟩
      exact pair high low rest isHigh isLow ih
  | case4 unit next rest unpaired ih =>
      exact alone unit (next :: rest)
        (by simpa [opensPair] using unpaired) ih

section AnyMeaning

variable {β : Type} (alone : UInt16 → β) (pair : UInt16 → UInt16 → β)

theorem readPieces_cons_of_not_opensPair
    {unit : UInt16} {rest : WideString}
    (unpaired : opensPair unit rest = false) :
    readPieces alone pair (unit :: rest) =
      alone unit :: readPieces alone pair rest := by
  cases rest with
  | nil => rfl
  | cons next rest =>
      have noPair : (isHighSurrogate unit && isLowSurrogate next) = false := by
        simpa [opensPair] using unpaired
      simp [readPieces, noPair]

theorem readPieces_pair
    {high low : UInt16}
    (isHigh : isHighSurrogate high = true)
    (isLow : isLowSurrogate low = true)
    (rest : WideString) :
    readPieces alone pair (high :: low :: rest) =
      pair high low :: readPieces alone pair rest := by
  simp [readPieces, isHigh, isLow]

/-- A unit that is no high surrogate stands alone. -/
theorem readPieces_cons_of_not_high
    {unit : UInt16} (notHigh : isHighSurrogate unit = false)
    (rest : WideString) :
    readPieces alone pair (unit :: rest) =
      alone unit :: readPieces alone pair rest :=
  readPieces_cons_of_not_opensPair alone pair (by simp [opensPair, notHigh])

theorem isEmpty_readPieces (string : WideString) :
    (readPieces alone pair string).isEmpty = string.isEmpty := by
  cases string using wideString_induction with
  | nil => rfl
  | alone unit rest unpaired =>
      rw [readPieces_cons_of_not_opensPair alone pair unpaired,
        List.isEmpty_cons, List.isEmpty_cons]
  | pair high low rest isHigh isLow =>
      rw [readPieces_pair alone pair isHigh isLow, List.isEmpty_cons,
        List.isEmpty_cons]

/-- Two strings are read apart if the second does not begin with a low
surrogate. -/
theorem readPieces_append_of_not_low
    (text : WideString) {rest : WideString}
    (notLow : rest.head?.any isLowSurrogate = false) :
    readPieces alone pair (text ++ rest) =
      readPieces alone pair text ++ readPieces alone pair rest := by
  induction text using wideString_induction with
  | nil => rfl
  | alone unit text unpaired ih =>
      have stillUnpaired : opensPair unit (text ++ rest) = false := by
        cases text with
        | nil => simp [opensPair, notLow]
        | cons next text => exact unpaired
      rw [List.cons_append,
        readPieces_cons_of_not_opensPair alone pair stillUnpaired, ih,
        readPieces_cons_of_not_opensPair alone pair unpaired,
        List.cons_append]
  | pair high low text isHigh isLow ih =>
      rw [List.cons_append, List.cons_append,
        readPieces_pair alone pair isHigh isLow, ih,
        readPieces_pair alone pair isHigh isLow, List.cons_append]

/-- What pieces stand for can be read at once. -/
theorem map_readPieces
    {γ : Type} (meaning : β → γ) (string : WideString) :
    (readPieces alone pair string).map meaning =
      readPieces (fun unit => meaning (alone unit))
        (fun high low => meaning (pair high low)) string := by
  induction string using wideString_induction with
  | nil => rfl
  | alone unit rest unpaired ih =>
      rw [readPieces_cons_of_not_opensPair _ _ unpaired, List.map_cons, ih,
        readPieces_cons_of_not_opensPair _ _ unpaired]
  | pair high low rest isHigh isLow ih =>
      rw [readPieces_pair _ _ isHigh isLow, List.map_cons, ih,
        readPieces_pair _ _ isHigh isLow]

end AnyMeaning

/-! ## Special units are not surrogates -/

theorem ne_of_isHighSurrogate
    {high symbol : UInt16}
    (isHigh : isHighSurrogate high = true)
    (notHigh : isHighSurrogate symbol = false) :
    high ≠ symbol := by
  rintro rfl
  rw [isHigh] at notHigh
  exact absurd notHigh (by decide)

theorem ne_of_isLowSurrogate
    {low symbol : UInt16}
    (isLow : isLowSurrogate low = true)
    (notLow : isLowSurrogate symbol = false) :
    low ≠ symbol := by
  rintro rfl
  rw [isLow] at notLow
  exact absurd notLow (by decide)

theorem needsQuoting_of_isHighSurrogate
    {high : UInt16} (isHigh : isHighSurrogate high = true) :
    needsQuoting high = false := by
  rw [Bool.eq_false_iff, ne_eq, needsQuoting_iff]
  rintro (rfl | rfl | rfl) <;> exact absurd isHigh (by decide)

theorem needsQuoting_of_isLowSurrogate
    {low : UInt16} (isLow : isLowSurrogate low = true) :
    needsQuoting low = false := by
  rw [Bool.eq_false_iff, ne_eq, needsQuoting_iff]
  rintro (rfl | rfl | rfl) <;> exact absurd isLow (by decide)

/-- Escaping brings no low surrogate to the front. -/
theorem head_flatMap_escape_any_low (argument : WideString) :
    (argument.flatMap escape).head?.any isLowSurrogate =
      argument.head?.any isLowSurrogate := by
  cases argument with
  | nil => rfl
  | cons unit rest =>
      by_cases isQuote : unit = doubleQuote
      · subst isQuote
        rw [List.flatMap_cons, escape_doubleQuote]
        rfl
      · rw [List.flatMap_cons, escape_of_ne isQuote]
        rfl

/-! ## Meanings that keep the syntax -/

/-- Special units, and no other pieces, mean the special symbols. -/
structure KeepsSyntax
    {β : Type} [Alphabet β] [DecidableEq β]
    (alone : UInt16 → β) (pair : UInt16 → UInt16 → β) : Prop where
  space_eq : alone space = space
  backslash_eq : alone backslash = backslash
  doubleQuote_iff : ∀ unit, alone unit = doubleQuote ↔ unit = doubleQuote
  needsQuoting_alone : ∀ unit, needsQuoting (alone unit) = needsQuoting unit
  needsQuoting_pair : ∀ high low, isHighSurrogate high = true →
    isLowSurrogate low = true → needsQuoting (pair high low) = false

namespace KeepsSyntax

variable {β : Type} [Alphabet β] [DecidableEq β]
variable {alone : UInt16 → β} {pair : UInt16 → UInt16 → β}
variable (keeps : KeepsSyntax alone pair)

include keeps

theorem pair_ne_doubleQuote
    {high low : UInt16}
    (isHigh : isHighSurrogate high = true)
    (isLow : isLowSurrogate low = true) :
    pair high low ≠ doubleQuote := by
  intro equal
  have ordinary := keeps.needsQuoting_pair high low isHigh isLow
  rw [equal, Bool.eq_false_iff, ne_eq, needsQuoting_iff] at ordinary
  exact ordinary (Or.inr (Or.inr rfl))

theorem readPieces_backslash_cons (rest : WideString) :
    readPieces alone pair (backslash :: rest) =
      backslash :: readPieces alone pair rest := by
  rw [readPieces_cons_of_not_high alone pair rfl, keeps.backslash_eq]

theorem readPieces_doubleQuote_cons (rest : WideString) :
    readPieces alone pair (doubleQuote :: rest) =
      doubleQuote :: readPieces alone pair rest := by
  rw [readPieces_cons_of_not_high alone pair rfl,
    (keeps.doubleQuote_iff doubleQuote).mpr rfl]

theorem any_needsQuoting_readPieces (argument : WideString) :
    (readPieces alone pair argument).any needsQuoting =
      argument.any needsQuoting := by
  induction argument using wideString_induction with
  | nil => rfl
  | alone unit rest unpaired ih =>
      rw [readPieces_cons_of_not_opensPair alone pair unpaired,
        List.any_cons, List.any_cons, keeps.needsQuoting_alone, ih]
  | pair high low rest isHigh isLow ih =>
      rw [readPieces_pair alone pair isHigh isLow]
      simp only [List.any_cons,
        keeps.needsQuoting_pair high low isHigh isLow,
        needsQuoting_of_isHighSurrogate isHigh,
        needsQuoting_of_isLowSurrogate isLow, Bool.false_or, ih]

/-- Reading does not change whether an argument is put into quotes. -/
theorem isWrapped_readPieces (argument : WideString) :
    isWrapped (readPieces alone pair argument) = isWrapped argument := by
  rw [isWrapped, isWrapped, keeps.any_needsQuoting_readPieces,
    isEmpty_readPieces]

theorem readPieces_flatMap_escape (argument : WideString) :
    readPieces alone pair (argument.flatMap escape) =
      (readPieces alone pair argument).flatMap escape := by
  induction argument using wideString_induction with
  | nil => rfl
  | alone unit rest unpaired ih =>
      rw [readPieces_cons_of_not_opensPair alone pair unpaired,
        List.flatMap_cons, List.flatMap_cons, ← ih]
      by_cases isQuote : unit = doubleQuote
      · have quoteRead := (keeps.doubleQuote_iff unit).mpr isQuote
        rw [quoteRead, isQuote, escape_doubleQuote, escape_doubleQuote]
        exact (keeps.readPieces_backslash_cons _).trans
          (congrArg (List.cons backslash)
            (keeps.readPieces_doubleQuote_cons _))
      · have notQuote := mt (keeps.doubleQuote_iff unit).mp isQuote
        have stillUnpaired : opensPair unit (rest.flatMap escape) = false := by
          rw [opensPair, head_flatMap_escape_any_low]
          exact unpaired
        rw [escape_of_ne isQuote, escape_of_ne notQuote]
        exact readPieces_cons_of_not_opensPair alone pair stillUnpaired
  | pair high low rest isHigh isLow ih =>
      rw [readPieces_pair alone pair isHigh isLow]
      simp only [List.flatMap_cons, ← ih,
        escape_of_ne (ne_of_isHighSurrogate isHigh (by decide)),
        escape_of_ne (ne_of_isLowSurrogate isLow (by decide)),
        escape_of_ne (keeps.pair_ne_doubleQuote isHigh isLow)]
      exact readPieces_pair alone pair isHigh isLow _

/-- Pieces can be read before or after quoting. -/
theorem readPieces_quote (argument : WideString) :
    readPieces alone pair (quote argument) =
      quote (readPieces alone pair argument) := by
  have sameKind := keeps.isWrapped_readPieces argument
  cases wrapped : isWrapped argument with
  | true =>
      rw [wrapped] at sameKind
      rw [quote_of_isWrapped wrapped, quote_of_isWrapped sameKind,
        keeps.readPieces_doubleQuote_cons,
        readPieces_append_of_not_low alone pair _ rfl,
        keeps.readPieces_flatMap_escape, keeps.readPieces_doubleQuote_cons]
      rfl
  | false =>
      rw [wrapped] at sameKind
      rw [quote_of_not_isWrapped wrapped, quote_of_not_isWrapped sameKind]

/-- A command line reads as that of the program and arguments as they read. -/
theorem readPieces_ofArguments
    (program : WideString) (arguments : List WideString) :
    readPieces alone pair (ofArguments program arguments) =
      ofArguments (readPieces alone pair program)
        (arguments.map (readPieces alone pair)) := by
  rw [ofArguments, ofArguments, ← keeps.readPieces_quote]
  generalize quote program = before
  induction arguments generalizing before with
  | nil => simp
  | cons argument arguments ih =>
      have spaceRead : readPieces alone pair (space :: quote argument) =
          space :: quote (readPieces alone pair argument) := by
        rw [readPieces_cons_of_not_high alone pair rfl, keeps.space_eq,
          keeps.readPieces_quote]
      rw [List.flatMap_cons, ← List.append_assoc, ih,
        readPieces_append_of_not_low alone pair before rfl, spaceRead,
        List.map_cons, List.flatMap_cons, List.append_assoc]

end KeepsSyntax

end WindowedLauncher.CommandLine
