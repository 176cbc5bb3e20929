import WindowedLauncher.CommandLine.Faithful
import WindowedLauncher.Proofs.Pieces

/-!
# Quoting and decoding commute

A command line is written in UTF-16 units and read in characters.  None of the
four special symbols is a surrogate, and no unit or pair of units decodes to
one of them unless it is that symbol.  Quoting therefore writes the same
command line before and after decoding (`decode_ofArguments_eq`), and an
argument is faithful before decoding exactly if it is afterwards
(`isFaithful_decode`).
-/

namespace WindowedLauncher.CommandLine

open WideString

/-! ## Decoding, piece by piece -/

theorem decode_cons_of_not_opensPair
    {unit : UInt16} {rest : WideString}
    (alone : opensPair unit rest = false) :
    decode (unit :: rest) = single unit :: decode rest := by
  cases rest with
  | nil => rfl
  | cons next rest =>
      have unpaired :
          (isHighSurrogate unit && isLowSurrogate next) = false := by
        simpa [opensPair] using alone
      simp [decode, unpaired]

/-- Decoding reads a string piece by piece. -/
theorem decode_eq_readPieces (string : WideString) :
    decode string = readPieces single paired string := by
  induction string using wideString_induction with
  | nil => rfl
  | alone unit rest alone ih =>
      rw [decode_cons_of_not_opensPair alone, ih,
        readPieces_cons_of_not_opensPair single paired alone]
  | pair high low rest isHigh isLow ih =>
      rw [decode_pair high low rest isHigh isLow, ih,
        readPieces_pair single paired isHigh isLow]

/-! ## What decodes to a special symbol -/

theorem toNat_ofNat_of_valid
    {code : Nat} (valid : code.isValidChar) :
    (Char.ofNat code).toNat = code := by
  rw [Char.ofNat, dif_pos valid]
  rfl

/-- A character below the surrogates comes from its own unit only. -/
theorem single_eq_iff
    {symbol : UInt16} {character : Char}
    (same : symbol.toNat = character.toNat)
    (small : character.toNat < 0xD800)
    (unit : UInt16) :
    single unit = character ↔ unit = symbol := by
  rw [← Char.toNat_inj, ← UInt16.toNat_inj, same, single]
  by_cases surrogate : isHighSurrogate unit || isLowSurrogate unit
  · have large : 0xD800 ≤ unit.toNat := by
      rw [Bool.or_eq_true, isHighSurrogate_iff, isLowSurrogate_iff] at surrogate
      omega
    have replaced : replacement.toNat = 0xFFFD := rfl
    rw [if_pos surrogate, replaced]
    omega
  · rw [if_neg surrogate, toNat_ofNat_of_valid]
    rw [Bool.or_eq_true, isHighSurrogate_iff, isLowSurrogate_iff] at surrogate
    have bound := unit.toNat_lt
    simp only [Nat.isValidChar]
    omega

/-- A surrogate pair is never read as a character below the surrogates. -/
theorem paired_ne
    {high low : UInt16} {character : Char}
    (isHigh : isHighSurrogate high = true)
    (isLow : isLowSurrogate low = true)
    (small : character.toNat < 0xD800) :
    paired high low ≠ character := by
  intro equal
  rw [isHighSurrogate_iff] at isHigh
  rw [isLowSurrogate_iff] at isLow
  have large : (paired high low).toNat =
      0x10000 + (high.toNat - 0xD800) * 0x400 + (low.toNat - 0xDC00) := by
    apply toNat_ofNat_of_valid
    simp only [Nat.isValidChar]
    omega
  rw [equal] at large
  omega

theorem single_eq_doubleQuote_iff (unit : UInt16) :
    single unit = doubleQuote ↔ unit = doubleQuote :=
  single_eq_iff rfl (by decide) unit

theorem single_eq_backslash_iff (unit : UInt16) :
    single unit = backslash ↔ unit = backslash :=
  single_eq_iff rfl (by decide) unit

/-- Decoding keeps blanks, and makes no new ones. -/
theorem isBlank_single (unit : UInt16) :
    isBlank (single unit) = isBlank unit := by
  have isSpace : single unit = space ↔ unit = space :=
    single_eq_iff rfl (by decide) unit
  have isTab : single unit = tab ↔ unit = tab :=
    single_eq_iff rfl (by decide) unit
  rw [Bool.eq_iff_iff, isBlank_iff, isBlank_iff, isSpace, isTab]

theorem needsQuoting_single (unit : UInt16) :
    needsQuoting (single unit) = needsQuoting unit := by
  simp only [needsQuoting, isBlank_single, single_eq_doubleQuote_iff]

theorem needsQuoting_paired
    {high low : UInt16}
    (isHigh : isHighSurrogate high = true)
    (isLow : isLowSurrogate low = true) :
    needsQuoting (paired high low) = false := by
  rw [Bool.eq_false_iff, ne_eq, needsQuoting_iff]
  rintro (equal | equal | equal) <;>
    exact paired_ne isHigh isLow (by decide) equal

/-- Only special units decode to special characters. -/
theorem keepsSyntax_decode : KeepsSyntax single paired where
  space_eq := rfl
  backslash_eq := rfl
  doubleQuote_iff := single_eq_doubleQuote_iff
  needsQuoting_alone := needsQuoting_single
  needsQuoting_pair _ _ := needsQuoting_paired

/-- Decoding does not change whether an argument asks for quotes. -/
theorem any_needsQuoting_decode (argument : WideString) :
    (decode argument).any needsQuoting = argument.any needsQuoting := by
  rw [decode_eq_readPieces]
  exact keepsSyntax_decode.any_needsQuoting_readPieces argument

theorem isEmpty_decode (argument : WideString) :
    (decode argument).isEmpty = argument.isEmpty := by
  rw [decode_eq_readPieces]
  exact isEmpty_readPieces single paired argument

/-- Decoding does not change whether an argument is put into quotes. -/
theorem isWrapped_decode (argument : WideString) :
    isWrapped (decode argument) = isWrapped argument := by
  rw [decode_eq_readPieces]
  exact keepsSyntax_decode.isWrapped_readPieces argument

/-! ## Faithful arguments -/

theorem isSafeBehind_cons_of_ordinary
    {α : Type} [Alphabet α] [DecidableEq α]
    {symbol : α} {rest : List α} {backslashes : Nat}
    (notBackslash : symbol ≠ backslash)
    (notQuote : symbol ≠ doubleQuote) :
    isSafeBehind backslashes (symbol :: rest) = isSafeBehind 0 rest := by
  rw [isSafeBehind, if_neg notBackslash, if_neg notQuote]

/-- Decoding does not change whether an argument can be read back. -/
theorem isSafeBehind_decode (argument : WideString) (backslashes : Nat) :
    isSafeBehind backslashes (decode argument) =
      isSafeBehind backslashes argument := by
  induction argument using wideString_induction
    generalizing backslashes with
  | nil => rfl
  | alone unit rest alone ih =>
      rw [decode_cons_of_not_opensPair alone]
      simp only [isSafeBehind, single_eq_backslash_iff,
        single_eq_doubleQuote_iff, isEmpty_decode, ih]
  | pair high low rest isHigh isLow ih =>
      rw [decode_pair high low rest isHigh isLow]
      rw [isSafeBehind_cons_of_ordinary
          (paired_ne isHigh isLow (by decide))
          (paired_ne isHigh isLow (by decide)),
        isSafeBehind_cons_of_ordinary
          (ne_of_isHighSurrogate isHigh (by decide))
          (ne_of_isHighSurrogate isHigh (by decide)),
        isSafeBehind_cons_of_ordinary
          (ne_of_isLowSurrogate isLow (by decide))
          (ne_of_isLowSurrogate isLow (by decide)),
        ih]

/-- An argument is faithful exactly if its decoded text is. -/
theorem isFaithful_decode (argument : WideString) :
    IsFaithful (decode argument) ↔ IsFaithful argument := by
  rw [← isFaithful_iff, ← isFaithful_iff, isFaithful, isFaithful,
    any_needsQuoting_decode, isSafeBehind_decode]

/-- A character below the surrogates is in a decoded text exactly if its own
unit is in the text. -/
theorem mem_decode_iff
    {symbol : UInt16} {character : Char}
    (same : symbol.toNat = character.toNat)
    (small : character.toNat < 0xD800)
    (text : WideString) :
    character ∈ decode text ↔ symbol ∈ text := by
  induction text using wideString_induction with
  | nil => simp
  | alone unit rest alone ih =>
      rw [decode_cons_of_not_opensPair alone, List.mem_cons,
        List.mem_cons, ih, eq_comm, single_eq_iff same small unit, eq_comm]
  | pair high low rest isHigh isLow ih =>
      have notHigh : high ≠ symbol := by
        rintro rfl
        rw [isHighSurrogate_iff] at isHigh
        omega
      have notLow : low ≠ symbol := by
        rintro rfl
        rw [isLowSurrogate_iff] at isLow
        omega
      rw [decode_pair high low rest isHigh isLow]
      simp only [List.mem_cons, ih, notHigh.symm, notLow.symm,
        (paired_ne isHigh isLow small).symm, false_or]

theorem doubleQuote_mem_decode_iff (argument : WideString) :
    doubleQuote ∈ decode argument ↔ doubleQuote ∈ argument :=
  mem_decode_iff rfl (by decide) argument

theorem backslash_mem_decode_iff (argument : WideString) :
    backslash ∈ decode argument ↔ backslash ∈ argument :=
  mem_decode_iff rfl (by decide) argument

/-! ## Command lines -/

/-- Two strings are decoded apart if the second does not begin with a low
surrogate. -/
theorem decode_append_of_not_low
    (text : WideString) {rest : WideString}
    (notLow : rest.head?.any isLowSurrogate = false) :
    decode (text ++ rest) = decode text ++ decode rest := by
  rw [decode_eq_readPieces, decode_eq_readPieces, decode_eq_readPieces]
  exact readPieces_append_of_not_low single paired text notLow

theorem decode_blank_cons
    {blank : UInt16} (isBlank_blank : isBlank blank = true)
    (rest : WideString) :
    decode (blank :: rest) = single blank :: decode rest := by
  apply decode_cons_of_not_high
  rcases (isBlank_iff blank).mp isBlank_blank with rfl | rfl <;> rfl

theorem decode_append_blank_cons
    (before : WideString)
    {blank : UInt16} (isBlank_blank : isBlank blank = true)
    (rest : WideString) :
    decode (before ++ blank :: rest) =
      decode before ++ single blank :: decode rest := by
  have notLow : (blank :: rest).head?.any isLowSurrogate = false := by
    rcases (isBlank_iff blank).mp isBlank_blank with rfl | rfl <;> rfl
  rw [decode_append_of_not_low before notLow,
    decode_blank_cons isBlank_blank]

/-- A command line decodes to that of the decoded program and arguments. -/
theorem decode_ofArguments_eq
    (program : WideString) (arguments : List WideString) :
    decode (ofArguments program arguments) =
      ofArguments (decode program) (arguments.map decode) := by
  have meaning : decode = readPieces single paired :=
    funext decode_eq_readPieces
  rw [meaning]
  exact keepsSyntax_decode.readPieces_ofArguments program arguments

end WindowedLauncher.CommandLine
