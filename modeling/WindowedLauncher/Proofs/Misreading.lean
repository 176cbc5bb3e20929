import Mathlib.Data.List.Basic
import WindowedLauncher.Proofs.RoundTrip

/-!
# Backslashes before a double quote

Inside quotes a clear text is taken as it is, and so is a run of backslashes
behind it, up to the next double quote (`run_clear_backslashes`).  That double
quote halves the run, and whether it is one depends on the length of the run:
the closing quote of an argument that ends in backslashes closes it if they
are even in number, and is swallowed with everything behind it if they are odd
(`split_decode_ofArguments_backslashes`).
-/

namespace WindowedLauncher.CommandLine

open WideString

/-! ## Clear texts -/

section AnyAlphabet

variable {α : Type} [Alphabet α]

/-- No double quote of a text stands behind a backslash, and a double quote
that follows the text does not either. -/
structure IsClear (text : List α) : Prop where
  quotes : ∀ before after, text = before ++ doubleQuote :: after →
    ¬ EndsInBackslash before
  ends : ¬ EndsInBackslash text

variable [DecidableEq α]

/-- A text is clear exactly if it stays safe with a double quote behind it
that is not the last symbol. -/
theorem isClear_iff (text : List α) :
    IsClear text ↔
      isSafeBehind 0 (text ++ [doubleQuote, space]) = true := by
  rw [isSafeBehind_iff _ [] 0 endsIn_nil, IsSafeAfter, List.nil_append]
  have ends : ¬ EndsInBackslash (text ++ [doubleQuote, space]) := by
    simp [EndsInBackslash]
  rw [and_iff_right ends]
  constructor
  · intro clear before after split behind
    rw [List.nil_append] at behind
    -- The double quote is that of the text, or the one that follows it.
    rcases List.append_eq_append_iff.mp split with
      ⟨more, rfl, tail⟩ | ⟨more, rfl, tail⟩
    · rcases more with _ | ⟨first, _ | ⟨second, more⟩⟩
      · rw [List.append_nil] at behind
        exact absurd behind clear.ends
      · simp at tail
      · simp at tail
    · rcases more with _ | ⟨first, more⟩
      · rw [List.append_nil] at clear
        exact absurd behind clear.ends
      · obtain ⟨rfl, -⟩ := List.cons.inj tail
        exact absurd behind (clear.quotes before more rfl)
  · intro safe
    constructor
    · rintro before after rfl behind
      have last := (safe before (after ++ [doubleQuote, space])
        (by simp) behind).1
      simp at last
    · intro behind
      have last := (safe text [space] rfl behind).1
      simp at last

instance (text : List α) : Decidable (IsClear text) :=
  decidable_of_iff _ (isClear_iff text).symm

/-! ## What is written -/

theorem flatMap_escape_replicate_backslash (count : Nat) :
    (List.replicate count (backslash : α)).flatMap escape =
      List.replicate count backslash := by
  refine flatMap_escape_of_not_mem ?_
  intro member
  exact backslash_ne_doubleQuote (List.eq_of_mem_replicate member).symm

theorem isWrapped_append_of_any
    {text : List α} (quoted : text.any needsQuoting = true)
    (more : List α) :
    isWrapped (text ++ more) = true := by
  rw [isWrapped, List.any_append, quoted, Bool.true_or, Bool.or_true]

/-- Arguments that need no quotes are written as they are. -/
theorem written_of_plain
    {arguments : List (List α)}
    (plain : ∀ argument ∈ arguments, isWrapped argument = false) :
    written arguments = arguments.flatMap (space :: ·) := by
  refine List.flatMap_congr ?_
  intro argument member
  rw [quote_of_not_isWrapped (plain argument member)]

theorem doubleQuote_not_mem_written
    {arguments : List (List α)}
    (plain : ∀ argument ∈ arguments, isWrapped argument = false) :
    doubleQuote ∉ written arguments := by
  rw [written_of_plain plain, List.mem_flatMap]
  rintro ⟨argument, member, inside⟩
  rcases List.mem_cons.mp inside with isSpace | inside
  · exact space_ne_doubleQuote isSpace.symm
  · exact ne_doubleQuote_of_not_isWrapped (plain argument member) _
      inside rfl

end AnyAlphabet

/-! ## What is read inside quotes -/

namespace Scanner

/-- Inside quotes, a clear text is taken as it is. -/
theorem run_clear
    (finished : List (List Char)) (fragment : Fragment)
    (inside : fragment.quoting = .inside)
    {text : List Char}
    (clear : isSafeBehind fragment.backslashes
      (text ++ [doubleQuote, space]) = true)
    (rest : List Char) :
    run ⟨finished, some fragment⟩ (text.flatMap escape ++ rest) =
      run ⟨finished, some ⟨fragment.complete ++ text, 0, .inside⟩⟩
        rest := by
  -- Said with the backslashes that are held back, the condition passes on to
  -- the rest of the text; `IsClear` itself does not.
  induction text generalizing fragment with
  | nil =>
      rcases (isSafeBehind_doubleQuote_cons_iff _ _).mp clear with
        ⟨none | ⟨-, impossible⟩, -⟩
      · rcases fragment with ⟨text, backslashes, quoting⟩
        subst none inside
        simp [Fragment.complete]
      · cases impossible
  | cons character text ih =>
      by_cases isQuote : character = '"'
      · subst isQuote
        rcases (isSafeBehind_doubleQuote_cons_iff _ _).mp clear with
          ⟨none | ⟨-, impossible⟩, restClear⟩
        · rw [run_escape_doubleQuote_cons, run_some_escaped,
            Fragment.takeEscaped_of_inside inside none, ih _ rfl restClear]
          simp [Fragment.complete, none]
        · simp at impossible
      · rcases step_inside finished inside isQuote with
          ⟨stays, stillInside⟩
        rw [List.cons_append, ← isSafeBehind_advance fragment isQuote]
          at clear
        rw [run_escape_cons_of_ne _ isQuote, stays,
          ih _ stillInside clear, fragment.complete_advance isQuote,
          List.append_assoc, List.singleton_append]

/-- Inside quotes, nothing ends without a double quote. -/
theorem run_inside
    (finished : List (List Char)) (fragment : Fragment)
    (inside : fragment.quoting = .inside)
    {text : List Char} (noQuote : doubleQuote ∉ text) :
    ∃ after, run ⟨finished, some fragment⟩ text =
        ⟨finished, some after⟩ ∧
      after.complete = fragment.complete ++ text := by
  induction text generalizing fragment with
  | nil => exact ⟨fragment, rfl, (List.append_nil _).symm⟩
  | cons character text ih =>
      rcases not_or.mp (mt List.mem_cons.mpr noQuote) with
        ⟨differs, restClean⟩
      rcases step_inside finished inside (Ne.symm differs) with
        ⟨stays, stillInside⟩
      obtain ⟨after, ran, complete⟩ :=
        ih (fragment.advance character) stillInside restClean
      refine ⟨after, ?_, ?_⟩
      · rw [run_cons, stays, ran]
      · rw [complete, fragment.complete_advance (Ne.symm differs),
          List.append_assoc, List.singleton_append]

/-- Behind a clear text, a run of backslashes is held back until the double
quote that ends it. -/
theorem run_clear_backslashes
    (finished : List (List Char))
    {text : List Char} (clear : IsClear text)
    (count : Nat) (rest : List Char) :
    run ⟨finished, some ⟨[], 0, .inside⟩⟩
        (text.flatMap escape ++ (List.replicate count '\\' ++ '"' :: rest)) =
      run ⟨finished, some
        (Fragment.takeDoubleQuote ⟨text, count, .inside⟩)⟩ rest := by
  have held := run_backslashes finished ⟨text, 0, .inside⟩ nofun
    (List.replicate count '\\') (fun _ => List.eq_of_mem_replicate)
  rw [List.length_replicate, Nat.zero_add] at held
  calc
    run ⟨finished, some ⟨[], 0, .inside⟩⟩ _ =
        run ⟨finished, some ⟨text, 0, .inside⟩⟩
          (List.replicate count '\\' ++ '"' :: rest) :=
      run_clear finished ⟨[], 0, .inside⟩ rfl ((isClear_iff text).mp clear) _
    _ = run ⟨finished, some ⟨text, count, .inside⟩⟩ ('"' :: rest) := by
      rw [run_append, held]
    _ = run ⟨finished, some
          (Fragment.takeDoubleQuote ⟨text, count, .inside⟩)⟩ rest := by
      rw [run_cons, step_doubleQuote, fragment_some]

end Scanner

/-! ## What is delivered -/

/-- An argument in quotes is read from inside them on. -/
theorem delivered_cons_of_isWrapped
    {argument : List Char} (wrapped : isWrapped argument = true)
    (rest : List (List Char)) :
    delivered (argument :: rest) =
      (Scanner.run ⟨[], some ⟨[], 0, .inside⟩⟩
        (argument.flatMap escape ++ '"' :: written rest)).result := by
  have fromStart : Scanner.start.step space = ⟨[], none⟩ :=
    Scanner.step_space_of_isOutside (Scanner.isOutside_between [])
  rw [delivered, written_cons, Scanner.run_cons, fromStart,
    Scanner.run_append, Scanner.run_quote_of_isWrapped _ wrapped,
    Scanner.step_between_doubleQuote, ← Scanner.run_append,
    List.append_assoc, List.singleton_append]

section Delivered

variable {text : List Char} {count : Nat}

/-- What follows an argument is read from its closing quote. -/
theorem delivered_backslashes
    (quoted : text.any needsQuoting = true) (clear : IsClear text)
    (rest : List (List Char)) :
    delivered ((text ++ List.replicate count '\\') :: rest) =
      (Scanner.run ⟨[], some
        (Fragment.takeDoubleQuote ⟨text, count, .inside⟩)⟩
          (written rest)).result := by
  have copied : (List.replicate count '\\').flatMap escape =
      List.replicate count '\\' :=
    flatMap_escape_replicate_backslash count
  rw [delivered_cons_of_isWrapped (isWrapped_append_of_any quoted _),
    List.flatMap_append, copied, List.append_assoc,
    Scanner.run_clear_backslashes [] clear]

/-- Behind an even number of backslashes the closing quote is one. -/
theorem delivered_backslashes_of_even
    (quoted : text.any needsQuoting = true) (clear : IsClear text)
    (even : count % 2 = 0) (rest : List (List Char)) :
    delivered ((text ++ List.replicate count '\\') :: rest) =
      (text ++ List.replicate (count / 2) '\\') :: delivered rest := by
  have closed : Fragment.takeDoubleQuote ⟨text, count, .inside⟩ =
      ⟨text ++ List.replicate (count / 2) '\\', 0, .closed⟩ :=
    Fragment.takeDoubleQuote_of_even even
  have outside : Scanner.IsOutside
      ⟨[], some ⟨text ++ List.replicate (count / 2) '\\', 0, .closed⟩⟩ :=
    rfl
  rw [delivered_backslashes quoted clear, closed,
    Scanner.result_run_written_of_isOutside outside]
  simp [Scanner.result, Fragment.complete, delivered]

/-- Behind an odd number of backslashes the closing quote is swallowed, and so
is every argument that brings no double quote of its own. -/
theorem delivered_backslashes_of_odd
    (quoted : text.any needsQuoting = true) (clear : IsClear text)
    (odd : count % 2 = 1) {rest : List (List Char)}
    (plain : ∀ argument ∈ rest, isWrapped argument = false) :
    delivered ((text ++ List.replicate count '\\') :: rest) =
      [text ++ List.replicate (count / 2) '\\' ++ ['"'] ++
        written rest] := by
  have swallowed : Fragment.takeDoubleQuote ⟨text, count, .inside⟩ =
      ⟨text ++ List.replicate (count / 2) '\\' ++ ['"'], 0, .inside⟩ :=
    Fragment.takeDoubleQuote_of_odd odd
  obtain ⟨after, ran, complete⟩ := Scanner.run_inside []
    ⟨text ++ List.replicate (count / 2) '\\' ++ ['"'], 0, .inside⟩ rfl
    (doubleQuote_not_mem_written plain)
  rw [delivered_backslashes quoted clear, swallowed, ran]
  change [after.complete] = _
  rw [complete]
  simp [Fragment.complete]

end Delivered

/-! ## In units -/

theorem decode_replicate_backslash (count : Nat) :
    decode (List.replicate count backslash) = List.replicate count '\\' := by
  induction count with
  | zero => rfl
  | succ count ih =>
      rw [List.replicate_succ, decode_cons_of_not_high _ _ rfl, ih]
      rfl

theorem decode_append_backslashes (text : WideString) (count : Nat) :
    decode (text ++ List.replicate count backslash) =
      decode text ++ List.replicate count '\\' := by
  rw [decode_append_of_not_low, decode_replicate_backslash]
  cases count <;> rfl

/-- A text is clear exactly if its decoded text is. -/
theorem isClear_decode (text : WideString) :
    IsClear (decode text) ↔ IsClear text := by
  have followed : decode (text ++ [doubleQuote, space]) =
      decode text ++ [doubleQuote, space] := by
    rw [decode_append_of_not_low text rfl]
    rfl
  rw [isClear_iff, isClear_iff, ← followed, isSafeBehind_decode]

/--
What an argument suffers that needs quotes and ends in backslashes.  If they
are even in number, half of them are lost, and whatever is written behind the
argument is read as if it stood on a command line of its own.  If they are
odd, the closing quote becomes part of the argument, and so do all the
arguments behind it that need no quotes.
-/
theorem split_decode_ofArguments_backslashes
    (program text : WideString) (count : Nat) (rest : List WideString)
    (noQuote : doubleQuote ∉ program)
    (quoted : ∃ unit ∈ text, needsQuoting unit = true)
    (clear : IsClear text) :
    (count % 2 = 0 →
      split (decode (ofArguments program
          ([text ++ List.replicate count backslash] ++ rest))) =
        [decode program,
          decode text ++ List.replicate (count / 2) '\\'] ++
            (split (decode (ofArguments program rest))).tail) ∧
    (count % 2 = 1 →
      (∀ argument ∈ rest, argument ≠ [] ∧
        ∀ unit ∈ argument, needsQuoting unit = false) →
      split (decode (ofArguments program
          ([text ++ List.replicate count backslash] ++ rest))) =
        [decode program,
          decode text ++ List.replicate ((count - 1) / 2) '\\' ++ ['"'] ++
            rest.flatMap (fun argument => ' ' :: decode argument)]) := by
  have decodedNoQuote : doubleQuote ∉ decode program :=
    mt (doubleQuote_mem_decode_iff program).mp noQuote
  have decodedQuoted : (decode text).any needsQuoting = true := by
    rw [any_needsQuoting_decode, List.any_eq_true]
    exact quoted
  have decodedClear := (isClear_decode text).mpr clear
  rw [decode_ofArguments_eq, decode_ofArguments_eq, List.singleton_append,
    List.map_cons, decode_append_backslashes,
    split_ofArguments decodedNoQuote, split_ofArguments decodedNoQuote]
  constructor
  · intro even
    rw [delivered_backslashes_of_even decodedQuoted decodedClear even]
    rfl
  · intro odd plain
    have decodedPlain : ∀ argument ∈ rest.map decode,
        isWrapped argument = false := by
      rw [List.forall_mem_map]
      intro argument member
      rw [isWrapped_decode]
      simpa [isWrapped] using plain argument member
    have half : (count - 1) / 2 = count / 2 := by omega
    rw [delivered_backslashes_of_odd decodedQuoted decodedClear odd
      decodedPlain, written_of_plain decodedPlain, List.flatMap_map, half]
    rfl

/-- Two backslashes at the end of an argument become one, and three swallow the
next argument. -/
theorem split_decode_ofArguments_backslashes_sample :
    split (decode (ofArguments (ofString "p")
        [ofString "C:\\my dir\\\\", ofString "next"])) =
      ["p".toList, "C:\\my dir\\".toList, "next".toList] ∧
    split (decode (ofArguments (ofString "p")
        [ofString "C:\\my dir\\\\\\", ofString "next"])) =
      ["p".toList, "C:\\my dir\\\" next".toList] := by
  have damage (count : Nat) := split_decode_ofArguments_backslashes
    (ofString "p") (ofString "C:\\my dir") count [ofString "next"]
    (by decide) (by decide) (by decide)
  have alone := (split_decode_ofArguments_eq_iff (ofString "p")
    [ofString "next"]).mpr (by decide)
  have bare : isWrapped (ofString "next") = false := by decide
  constructor
  · refine ((damage 2).1 rfl).trans ?_
    rw [alone]
    decide
  · exact ((damage 3).2 rfl (by simpa [isWrapped] using bare)).trans
      (by decide)

end WindowedLauncher.CommandLine
