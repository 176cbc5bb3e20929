import WindowedLauncher.CommandLine.Progress
import WindowedLauncher.Proofs.Decoding
import WindowedLauncher.Proofs.Written

/-!
# Blanks outside quotes separate

Blanks outside quotes end whatever is being read, and what stands behind them
is read as if nothing had stood before.  A turn does not look past a blank,
unless it ends an argument and goes on behind all blanks that follow it
(`turn_append_blank`).  The arguments before the blank are therefore those of
the text before it, and the others depend on the text behind it alone
(`arguments_append_blank`, `split_decode_append_blanks`).
-/

namespace WindowedLauncher.CommandLine

open WideString

/-! ## Texts with a place where a search stops -/

section Search

variable {α : Type} (keeps : α → Bool) {stop : α}

theorem takeWhile_append_stop
    (stops : keeps stop = false) (text rest : List α) :
    (text ++ stop :: rest).takeWhile keeps = text.takeWhile keeps := by
  rw [List.takeWhile_append]
  split
  next whole =>
    have kept : text.takeWhile keeps = text :=
      (List.takeWhile_prefix keeps).eq_of_length whole
    rw [List.takeWhile_cons_of_neg (by simp [stops]), List.append_nil, kept]
  next => rfl

theorem dropWhile_append_stop
    (stops : keeps stop = false) (text rest : List α) :
    (text ++ stop :: rest).dropWhile keeps =
      text.dropWhile keeps ++ stop :: rest := by
  rw [List.dropWhile_append]
  split
  next nothing =>
    rw [List.dropWhile_cons_of_neg (by simp [stops]),
      List.isEmpty_iff.mp nothing, List.nil_append]
  next => rfl

end Search

/-! ## Turns and runs before a blank -/

/-- The arguments behind argument 0, from the text that follows it. -/
def argumentsBehind (text : List Char) : List (List Char) :=
  (Reading.atArgument (text.dropWhile isBlank)).arguments
    (text.dropWhile isBlank)

theorem split_eq_cons (line : List Char) :
    split line =
      (programAndRest line).1 :: argumentsBehind (programAndRest line).2 :=
  rfl

theorem argumentsBehind_append_blanks
    {blanks : List Char}
    (allBlank : ∀ character ∈ blanks, isBlank character = true)
    (text : List Char) :
    argumentsBehind (blanks ++ text) = argumentsBehind text := by
  rw [argumentsBehind, List.dropWhile_append_of_pos allBlank,
    argumentsBehind]

namespace Reading

theorem arguments_atArgument_nil :
    (atArgument []).arguments [] = [] := by
  rw [arguments]
  rfl

/-- A text that is left opens an argument, whatever stands behind it. -/
theorem atArgument_append
    {text : List Char} (nonempty : text ≠ []) (rest : List Char) :
    atArgument (text ++ rest) = atArgument text := by
  obtain ⟨character, text, rfl⟩ := List.exists_cons_of_ne_nil nonempty
  rfl

/--
A turn leaves a blank and what stands behind it for later turns.  Only if it
ends an argument and no other text is left before the blank, it skips the blank
too.
-/
theorem turn_append_blank
    (reading : Reading) (character : Char) (text : List Char)
    {blank : Char} (isBlank_blank : isBlank blank = true)
    (behind : List Char) :
    reading.turn character (text ++ blank :: behind) =
        ⟨(reading.turn character text).finished,
          (reading.turn character text).state,
          (reading.turn character text).rest ++ blank :: behind⟩ ∨
      reading.turn character text =
          ⟨(reading.turn character text).finished, atArgument [], []⟩ ∧
        reading.turn character (text ++ blank :: behind) =
          ⟨(reading.turn character text).finished,
            atArgument (behind.dropWhile isBlank),
            behind.dropWhile isBlank⟩ := by
  have notQuote : decide (blank = '"') = false := by
    rw [decide_eq_false_iff_not]
    rintro rfl
    exact absurd isBlank_blank (by decide)
  by_cases cut : (isBlank character && reading.quotes = 0) = true
  · -- Whether an argument is opened depends on the text before the blank only
    -- if some is left there.
    simp only [turn, cut, if_true]
    by_cases nothing : text.dropWhile isBlank = []
    · refine Or.inr ⟨by rw [nothing], ?_⟩
      rw [List.dropWhile_append, nothing, List.isEmpty_nil, if_pos rfl,
        List.dropWhile_cons_of_pos isBlank_blank]
    · refine Or.inl ?_
      rw [List.dropWhile_append, if_neg (by simpa using nothing),
        atArgument_append nothing]
  · refine Or.inl ?_
    simp only [turn, if_neg cut]
    split
    · rfl
    · split
      · rw [takeWhile_append_stop (· = '"') notQuote,
          dropWhile_append_stop (· = '"') notQuote]
      · rfl

/-- Where the reader ends outside quotes, a blank ends its argument, and the
rest is read on its own. -/
theorem arguments_append_blank
    (reading : Reading) (text : List Char)
    (outside : (reading.atEnd text).quotes = 0)
    {blank : Char} (isBlank_blank : isBlank blank = true)
    (behind : List Char) :
    reading.arguments (text ++ blank :: behind) =
      reading.arguments text ++ argumentsBehind behind := by
  induction reading, text using atEnd.induct with
  | case1 reading =>
      rw [atEnd] at outside
      have ends : (isBlank blank && decide (reading.quotes = 0)) = true := by
        rw [isBlank_blank, outside]
        rfl
      rw [List.nil_append, arguments, arguments, turn, if_pos ends]
      rfl
  | case2 reading character text next ih =>
      rw [atEnd] at outside
      have readOn := ih outside
      rw [List.cons_append, arguments, arguments]
      rcases reading.turn_append_blank character text isBlank_blank behind
        with waits | ⟨last, skips⟩
      · rw [waits]
        change next.finished.toList ++
            next.state.arguments (next.rest ++ blank :: behind) =
          next.finished.toList ++ next.state.arguments next.rest ++
            argumentsBehind behind
        rw [readOn, List.append_assoc]
      · rw [skips, last]
        change next.finished.toList ++ argumentsBehind behind =
          next.finished.toList ++ (atArgument []).arguments [] ++
            argumentsBehind behind
        rw [arguments_atArgument_nil, List.append_nil]

end Reading

/-! ## Whole command lines -/

/-- Argument 0 ends before a blank, unless it is in quotes that are open. -/
theorem programAndRest_append_blank
    {line : List Char}
    (closed : line.head? ≠ some '"' ∨ '"' ∈ line.tail)
    {blank : Char} (isBlank_blank : isBlank blank = true)
    (behind : List Char) :
    programAndRest (line ++ blank :: behind) =
      ((programAndRest line).1,
        (programAndRest line).2 ++ blank :: behind) := by
  by_cases quoted : line.head? = some '"'
  · obtain ⟨text, rfl⟩ := List.head?_eq_some_iff.mp quoted
    obtain ⟨before, after, parts⟩ := List.append_of_mem
      (closed.resolve_left (not_not_intro quoted))
    rw [List.tail_cons] at parts
    subst parts
    have stops : decide (('"' : Char) ≠ '"') = false := by decide
    rw [List.cons_append, List.append_assoc, List.cons_append,
      programAndRest_doubleQuote_cons, programAndRest_doubleQuote_cons,
      takeWhile_append_stop (· ≠ '"') stops,
      takeWhile_append_stop (· ≠ '"') stops,
      dropWhile_append_stop (· ≠ '"') stops,
      dropWhile_append_stop (· ≠ '"') stops,
      ← List.tail_append_of_ne_nil (by simp), List.append_assoc,
      List.cons_append]
  · have opensPlain : (line ++ blank :: behind).head? ≠ some '"' := by
      cases line with
      | nil =>
          rintro openedQuoted
          rw [List.nil_append, List.head?_cons, Option.some.injEq]
            at openedQuoted
          subst openedQuoted
          exact absurd isBlank_blank (by decide)
      | cons character line => exact quoted
    have stops : (!isBlank blank) = false := by
      rw [isBlank_blank]
      rfl
    rw [programAndRest_of_head_ne opensPlain,
      programAndRest_of_head_ne quoted,
      takeWhile_append_stop (!isBlank ·) stops,
      dropWhile_append_stop (!isBlank ·) stops]

/-- A blank outside quotes parts the arguments. -/
theorem argumentsBehind_append_blank
    (text : List Char)
    (outside : ((Reading.atArgument (text.dropWhile isBlank)).atEnd
      (text.dropWhile isBlank)).quotes = 0)
    {blank : Char} (isBlank_blank : isBlank blank = true)
    (behind : List Char) :
    argumentsBehind (text ++ blank :: behind) =
      argumentsBehind text ++ argumentsBehind behind := by
  rw [argumentsBehind, argumentsBehind, List.dropWhile_append]
  split
  next nothing =>
    rw [List.isEmpty_iff.mp nothing,
      List.dropWhile_cons_of_pos isBlank_blank,
      Reading.arguments_atArgument_nil]
    rfl
  next something =>
    rw [Reading.atArgument_append (by simpa using something)]
    exact Reading.arguments_append_blank _ _ outside isBlank_blank behind

/-- Outside quotes a line ends if its program is closed and its last argument
is. -/
theorem endsOutsideQuotes_iff (line : List Char) :
    endsOutsideQuotes line = true ↔
      (line.head? ≠ some '"' ∨ '"' ∈ line.tail) ∧
        ((Reading.atArgument
          ((programAndRest line).2.dropWhile isBlank)).atEnd
            ((programAndRest line).2.dropWhile isBlank)).quotes = 0 := by
  rw [endsOutsideQuotes]
  simp only [Bool.and_eq_true, Bool.or_eq_true, decide_eq_true_eq,
    List.contains_iff_mem]

theorem split_append_blank
    {line : List Char} (outside : endsOutsideQuotes line = true)
    {blank : Char} (isBlank_blank : isBlank blank = true)
    (behind : List Char) :
    split (line ++ blank :: behind) =
      split line ++ argumentsBehind behind := by
  rcases (endsOutsideQuotes_iff line).mp outside with ⟨closed, noQuotes⟩
  rw [split_eq_cons, programAndRest_append_blank closed isBlank_blank,
    argumentsBehind_append_blank _ noQuotes isBlank_blank, split_eq_cons]
  rfl

/-- Argument 0 of a line that starts with a blank is empty. -/
theorem split_blank_cons
    {blank : Char} (isBlank_blank : isBlank blank = true)
    (behind : List Char) :
    split (blank :: behind) = [] :: argumentsBehind behind := by
  have closed : ([] : List Char).head? ≠ some '"' := by decide
  have skipped : ∀ character ∈ [blank], isBlank character = true := by
    simpa using isBlank_blank
  have program : programAndRest (blank :: behind) = ([], blank :: behind) :=
    programAndRest_append_blank (Or.inl closed) isBlank_blank behind
  rw [split_eq_cons, program]
  exact congrArg (List.cons [])
    (argumentsBehind_append_blanks skipped behind)

/-! ## Command lines in UTF-16 -/

theorem decode_blanks_append
    {blanks : WideString}
    (allBlank : ∀ unit ∈ blanks, isBlank unit = true)
    (rest : WideString) :
    decode (blanks ++ rest) = blanks.map single ++ decode rest := by
  induction blanks with
  | nil => rfl
  | cons blank blanks ih =>
      rcases List.forall_mem_cons.mp allBlank with
        ⟨isBlank_blank, restBlank⟩
      rw [List.cons_append, decode_blank_cons isBlank_blank, ih restBlank,
        List.map_cons, List.cons_append]

/--
Behind a text that ends outside quotes, blanks separate: the arguments are
those of the text before the blanks, and then those of the text behind them.
The latter are the same behind a single space, and so depend neither on the
blanks nor on anything before them.
-/
theorem split_decode_append_blanks
    {before blanks : WideString}
    (outside : endsOutsideQuotes (decode before) = true)
    (nonempty : blanks ≠ [])
    (allBlank : ∀ unit ∈ blanks, isBlank unit = true)
    (behind : WideString) :
    split (decode (before ++ blanks ++ behind)) =
        split (decode before) ++ (split (decode (blanks ++ behind))).tail ∧
      (split (decode (blanks ++ behind))).tail =
        (split (decode (space :: behind))).tail := by
  obtain ⟨blank, blanks, rfl⟩ := List.exists_cons_of_ne_nil nonempty
  rcases List.forall_mem_cons.mp allBlank with ⟨isBlank_blank, restBlank⟩
  have decodedBlank : isBlank (single blank) = true := by
    rw [isBlank_single, isBlank_blank]
  have restDecoded : ∀ character ∈ blanks.map single,
      isBlank character = true := by
    intro character member
    obtain ⟨unit, unitMember, rfl⟩ := List.mem_map.mp member
    rw [isBlank_single, restBlank unit unitMember]
  have behindBlanks :
      (split (decode (blank :: blanks ++ behind))).tail =
        argumentsBehind (decode behind) := by
    rw [List.cons_append, decode_blank_cons isBlank_blank,
      decode_blanks_append restBlank, split_blank_cons decodedBlank,
      List.tail_cons, argumentsBehind_append_blanks restDecoded]
  have behindSpace : (split (decode (space :: behind))).tail =
      argumentsBehind (decode behind) := by
    rw [decode_blank_cons isBlank_space,
      split_blank_cons (by rw [isBlank_single, isBlank_space]),
      List.tail_cons]
  constructor
  · rw [behindBlanks, List.append_assoc, List.cons_append,
      decode_append_blank_cons before isBlank_blank,
      decode_blanks_append restBlank,
      split_append_blank outside decodedBlank,
      argumentsBehind_append_blanks restDecoded]
  · rw [behindBlanks, behindSpace]

/-- The text before the blanks ends in a backslash, behind a double quote that
three in a row have left. -/
theorem split_decode_append_blanks_sample :
    endsOutsideQuotes (decode (ofString "\"p q\" x\"\"\"y z\\")) = true ∧
      split (decode (ofString "\"p q\" x\"\"\"y z\\" ++ [space, tab] ++
          ofString "\"v w\" u")) =
        ["p q".toList, "x\"y".toList, "z\\".toList, "v w".toList,
          "u".toList] := by
  have outside : endsOutsideQuotes
      (decode (ofString "\"p q\" x\"\"\"y z\\")) = true := by
    decide +kernel
  have nonempty : ([space, tab] : WideString) ≠ [] := by decide
  have allBlank : ∀ unit ∈ ([space, tab] : WideString),
      isBlank unit = true := by
    simp
  obtain ⟨separated, -⟩ := split_decode_append_blanks outside nonempty
    allBlank (ofString "\"v w\" u")
  refine ⟨outside, separated.trans ?_⟩
  decide +kernel

end WindowedLauncher.CommandLine
