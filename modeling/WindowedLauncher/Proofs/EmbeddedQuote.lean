import WindowedLauncher.Proofs.Misreading

/-!
# A double quote inside an argument, behind backslashes

Quoting puts one backslash of its own before a double quote, so that a run
of backslashes before it becomes one longer.  A run of even length is then
odd: the double quote is text, and only backslashes are lost
(`delivered_embedded_quote_of_even`).  A run of odd length is then even: the
double quote ends the quoted stretch, and from there on what was inside
quotes is outside and the other way round
(`delivered_embedded_quote_of_odd`).  The argument is cut at its own space,
and its closing quote opens a stretch that takes in whatever is written
behind it (`split_decode_ofArguments_embedded_quote`).
-/

namespace WindowedLauncher.CommandLine

open WideString

/-! ## Texts without special symbols -/

section AnyAlphabet

variable {α : Type} [Alphabet α]

theorem EndsInBackslash.mem
    {text : List α} (ends : EndsInBackslash text) :
    backslash ∈ text :=
  List.mem_of_getLast? ends

theorem isClear_of_not_mem
    {text : List α} (noBackslash : backslash ∉ text) :
    IsClear text where
  quotes := by
    rintro before after rfl behind
    exact noBackslash (List.mem_append_left _ behind.mem)
  ends := fun behind => noBackslash behind.mem

variable [DecidableEq α]

theorem isSafeBehind_of_not_mem
    {text : List α} (noBackslash : backslash ∉ text) :
    isSafeBehind 0 text = true := by
  have clear := isClear_of_not_mem noBackslash
  rw [isSafeBehind_iff _ [] 0 endsIn_nil]
  refine ⟨clear.ends, ?_⟩
  intro before after split behind
  exact absurd behind (clear.quotes before after split)

/-- A text in which no symbol has a meaning on a command line. -/
structure IsBare (text : List α) : Prop where
  unquoted : ∀ symbol ∈ text, needsQuoting symbol = false
  noBackslash : backslash ∉ text

theorem isBare_iff (text : List α) :
    IsBare text ↔
      text.any needsQuoting = false ∧ backslash ∉ text := by
  rw [List.any_eq_false]
  constructor
  · intro bare
    exact ⟨by simpa using bare.unquoted, bare.noBackslash⟩
  · rintro ⟨unquoted, noBackslash⟩
    exact ⟨by simpa using unquoted, noBackslash⟩

instance (text : List α) : Decidable (IsBare text) :=
  decidable_of_iff _ (isBare_iff text).symm

theorem isBare_cons_iff (symbol : α) (text : List α) :
    IsBare (symbol :: text) ↔
      (needsQuoting symbol = false ∧ symbol ≠ backslash) ∧
        IsBare text := by
  rw [isBare_iff, isBare_iff, List.any_cons, Bool.or_eq_false_iff,
    List.mem_cons, not_or, and_and_and_comm, ne_comm]

theorem solid_of_unquoted
    {symbol : α} (unquoted : needsQuoting symbol = false) :
    isBlank symbol = false ∧ symbol ≠ doubleQuote := by
  simpa [needsQuoting] using unquoted

theorem IsBare.solid
    {text : List α} (bare : IsBare text) :
    ∀ symbol ∈ text, isBlank symbol = false ∧ symbol ≠ doubleQuote :=
  fun symbol member => solid_of_unquoted (bare.unquoted symbol member)

theorem IsBare.doubleQuote_not_mem
    {text : List α} (bare : IsBare text) :
    doubleQuote ∉ text :=
  fun member => (bare.solid doubleQuote member).2 rfl

/-- A quote inside a text is written behind one backslash more. -/
theorem flatMap_escape_embedded
    (front : List α) (count : Nat) (content : List α) :
    (front ++ (List.replicate count backslash ++
        doubleQuote :: content)).flatMap escape =
      front.flatMap escape ++ (List.replicate (count + 1) backslash ++
        doubleQuote :: content.flatMap escape) := by
  rw [List.flatMap_append, List.flatMap_append,
    flatMap_escape_replicate_backslash, flatMap_escape_doubleQuote_cons,
    List.replicate_succ', List.append_assoc, List.singleton_append]

end AnyAlphabet

/-! ## What is read outside quotes -/

namespace Scanner

/-- A text without special symbols is taken as it is and changes nothing. -/
theorem run_bare
    (finished : List (List Char)) (read : List Char)
    {quoting : Quoting} (notClosed : quoting ≠ .closed)
    {text : List Char} (bare : IsBare text) :
    run ⟨finished, some ⟨read, 0, quoting⟩⟩ text =
      ⟨finished, some ⟨read ++ text, 0, quoting⟩⟩ := by
  induction text generalizing read with
  | nil => rw [List.append_nil, run_nil]
  | cons character text ih =>
      rcases (isBare_cons_iff character text).mp bare with
        ⟨⟨unquoted, notBackslash⟩, restBare⟩
      obtain ⟨solid, noQuote⟩ : isBlank character = false ∧
          character ≠ '"' :=
        solid_of_unquoted unquoted
      have taken : Fragment.advance ⟨read, 0, quoting⟩ character =
          ⟨read ++ [character], 0, quoting⟩ := by
        have differs : character ≠ '\\' := notBackslash
        rw [Fragment.advance, if_neg noQuote, if_neg differs,
          Quoting.settle_of_ne_closed notClosed]
        simp [Fragment.complete]
      rw [run_cons, step_of_solid _ solid, fragment_some, taken,
        ih _ restBare, List.append_assoc, List.singleton_append]

/-- Between arguments, a double quote behind a text without special symbols
opens a quoted stretch of the same argument. -/
theorem run_between_bare_doubleQuote
    (finished : List (List Char))
    {text : List Char} (bare : IsBare text) :
    run ⟨finished, none⟩ (text ++ ['"']) =
      ⟨finished, some ⟨text, 0, .inside⟩⟩ := by
  have opened : run ⟨finished, none⟩ (text ++ ['"']) =
      run ⟨finished, some .empty⟩ (text ++ ['"']) := by
    cases text with
    | nil => exact run_between_of_solid finished (by decide) []
    | cons character text =>
        exact run_between_of_solid finished
          (bare.solid character List.mem_cons_self).1 _
  rw [opened, run_append, Fragment.empty,
    run_bare finished [] (by decide) bare, run_cons, step_doubleQuote,
    fragment_some, run_nil, Fragment.takeDoubleQuote_of_even rfl]
  simp

/-- Inside quotes, a safe text is taken up to its closing quote, and what is
written behind that is read on its own. -/
theorem result_run_quoted_of_safe
    {fragment : Fragment} (inside : fragment.quoting = .inside)
    {content : List Char}
    (safe : isSafeBehind fragment.backslashes content = true)
    (rest : List (List Char)) :
    (run ⟨[], some fragment⟩
        (content.flatMap escape ++ '"' :: written rest)).result =
      (fragment.complete ++ content) :: delivered rest := by
  obtain ⟨quoting, closed, ran⟩ :=
    run_quoted_of_safe [] fragment inside safe
  have outside : IsOutside
      ⟨[], some ⟨fragment.complete ++ content, 0, quoting⟩⟩ :=
    closed
  rw [List.append_cons (content.flatMap escape), run_append, ran,
    result_run_written_of_isOutside outside]
  simp [result, Fragment.complete, delivered]

end Scanner

/-! ## What is delivered -/

section Delivered

variable {front : List Char} {count : Nat}

/-- What follows the front of an argument is read from the quote inside it. -/
theorem delivered_embedded_quote
    (clear : IsClear front) (content : List Char)
    (rest : List (List Char)) :
    delivered ((front ++ (List.replicate count '\\' ++
        '"' :: content)) :: rest) =
      (Scanner.run ⟨[], some
        (Fragment.takeDoubleQuote ⟨front, count + 1, .inside⟩)⟩
          (content.flatMap escape ++ '"' :: written rest)).result := by
  have wrapped : isWrapped (front ++ (List.replicate count '\\' ++
      '"' :: content)) = true :=
    isWrapped_of_mem
      (List.mem_append_right _ (List.mem_append_right _ List.mem_cons_self))
  have escaped : (front ++ (List.replicate count '\\' ++
      '"' :: content)).flatMap escape =
        front.flatMap escape ++ (List.replicate (count + 1) '\\' ++
          '"' :: content.flatMap escape) :=
    flatMap_escape_embedded front count content
  rw [delivered_cons_of_isWrapped wrapped, escaped, List.append_assoc,
    List.append_assoc, List.cons_append,
    Scanner.run_clear_backslashes [] clear]

/-- Behind an even number of backslashes an embedded double quote is text. -/
theorem delivered_embedded_quote_of_even
    (clear : IsClear front) (even : count % 2 = 0)
    {content : List Char} (safe : isSafeBehind 0 content = true)
    (rest : List (List Char)) :
    delivered ((front ++ (List.replicate count '\\' ++
        '"' :: content)) :: rest) =
      (front ++ (List.replicate (count / 2) '\\' ++ '"' :: content)) ::
        delivered rest := by
  have half : (count + 1) / 2 = count / 2 := by omega
  have literal : Fragment.takeDoubleQuote ⟨front, count + 1, .inside⟩ =
      ⟨front ++ List.replicate (count / 2) '\\' ++ ['"'], 0, .inside⟩ := by
    rw [← half]
    exact Fragment.takeDoubleQuote_of_odd
      (show (count + 1) % 2 = 1 by omega)
  rw [delivered_embedded_quote clear, literal,
    Scanner.result_run_quoted_of_safe rfl safe]
  simp [Fragment.complete]

/-- Behind an odd number of backslashes an embedded double quote ends the
quoted stretch.  The argument is cut at the space behind it, and what follows
the space runs on through all the arguments that bring no double quote. -/
theorem delivered_embedded_quote_of_odd
    (clear : IsClear front) (odd : count % 2 = 1)
    {middle back : List Char}
    (middleSolid : ∀ character ∈ middle,
      isBlank character = false ∧ character ≠ doubleQuote)
    (backBare : IsBare back)
    {rest : List (List Char)}
    (plain : ∀ argument ∈ rest, isWrapped argument = false) :
    delivered ((front ++ (List.replicate count '\\' ++
        '"' :: (middle ++ space :: back))) :: rest) =
      [front ++ List.replicate ((count + 1) / 2) '\\' ++ middle,
        back ++ written rest] := by
  have ended : Fragment.takeDoubleQuote ⟨front, count + 1, .inside⟩ =
      ⟨front ++ List.replicate ((count + 1) / 2) '\\', 0, .closed⟩ :=
    Fragment.takeDoubleQuote_of_even (show (count + 1) % 2 = 0 by omega)
  have copied : (middle ++ space :: back).flatMap escape =
      middle ++ space :: back := by
    refine flatMap_escape_of_not_mem ?_
    rw [List.mem_append, List.mem_cons]
    rintro (member | isSpace | member)
    · exact (middleSolid doubleQuote member).2 rfl
    · exact space_ne_doubleQuote isSpace.symm
    · exact backBare.doubleQuote_not_mem member
  obtain ⟨first, ranFirst, firstComplete, firstOutside⟩ :=
    Scanner.run_plain []
      ⟨front ++ List.replicate ((count + 1) / 2) '\\', 0, .closed⟩
      middleSolid
  obtain ⟨second, ranSecond, secondComplete⟩ :=
    Scanner.run_inside [] ⟨back, 0, .inside⟩ rfl
      (doubleQuote_not_mem_written plain)
  have ends : Scanner.EndsAt ⟨[], some first⟩ space :=
    ⟨isBlank_space, firstOutside⟩
  rw [delivered_embedded_quote clear, ended, copied, List.append_assoc,
    Scanner.run_append, ranFirst, List.cons_append,
    Scanner.result_run_of_endsAt ends, List.append_cons back,
    Scanner.run_append, Scanner.start,
    Scanner.run_between_bare_doubleQuote [] backBare, ranSecond,
    firstComplete]
  change [_, second.complete] = _
  rw [secondComplete]
  simp [Fragment.complete]

end Delivered

/-! ## In units -/

theorem isBare_decode (text : WideString) :
    IsBare (decode text) ↔ IsBare text := by
  rw [isBare_iff, isBare_iff, any_needsQuoting_decode,
    backslash_mem_decode_iff]

theorem decode_append_space_cons (first second : WideString) :
    decode (first ++ space :: second) =
      decode first ++ ' ' :: decode second :=
  decode_append_blank_cons first isBlank_space second

theorem decode_embedded_quote
    (front : WideString) (count : Nat) (content : WideString) :
    decode (front ++ (List.replicate count backslash ++
        doubleQuote :: content)) =
      decode front ++ (List.replicate count '\\' ++ '"' :: decode content) := by
  rw [← List.append_assoc, decode_append_of_not_low _ rfl,
    decode_append_backslashes, decode_cons_of_not_high _ _ rfl,
    List.append_assoc]
  rfl

theorem isWrapped_of_mem_map_decode
    {arguments : List WideString}
    (plain : ∀ argument ∈ arguments, argument ≠ [] ∧
      ∀ unit ∈ argument, needsQuoting unit = false) :
    ∀ argument ∈ arguments.map decode, isWrapped argument = false := by
  rw [List.forall_mem_map]
  intro argument member
  rw [isWrapped_decode, isWrapped_eq_false_iff_needsQuoting]
  exact plain argument member

/--
What an argument suffers that holds a double quote behind backslashes, and a
space behind that.  If the backslashes are even in number, half of them are
lost and the argument stays one.  If they are odd, they are halved together
with the one that quoting adds; the double quote is lost, the argument is cut
in two at its space, and the second part takes in all the arguments behind it
that need no quotes.
-/
theorem split_decode_ofArguments_embedded_quote
    (program front middle back : WideString) (count : Nat)
    (rest : List WideString)
    (noQuote : doubleQuote ∉ program)
    (frontBare : IsBare front) (middleBare : IsBare middle)
    (backBare : IsBare back) :
    (count % 2 = 0 →
      split (decode (ofArguments program
          ([front ++ (List.replicate count backslash ++
            doubleQuote :: (middle ++ space :: back))] ++ rest))) =
        [decode program,
          decode front ++ (List.replicate (count / 2) '\\' ++
            '"' :: (decode middle ++ ' ' :: decode back))] ++
              (split (decode (ofArguments program rest))).tail) ∧
    (count % 2 = 1 →
      (∀ argument ∈ rest, argument ≠ [] ∧
        ∀ unit ∈ argument, needsQuoting unit = false) →
      split (decode (ofArguments program
          ([front ++ (List.replicate count backslash ++
            doubleQuote :: (middle ++ space :: back))] ++ rest))) =
        [decode program,
          decode front ++ List.replicate ((count + 1) / 2) '\\' ++
            decode middle,
          decode back ++
            rest.flatMap (fun argument => ' ' :: decode argument)]) := by
  have decodedNoQuote : doubleQuote ∉ decode program :=
    mt (doubleQuote_mem_decode_iff program).mp noQuote
  have frontClear : IsClear (decode front) :=
    isClear_of_not_mem ((isBare_decode front).mpr frontBare).noBackslash
  have decodedMiddle := (isBare_decode middle).mpr middleBare
  have decodedBack := (isBare_decode back).mpr backBare
  rw [decode_ofArguments_eq, decode_ofArguments_eq, List.singleton_append,
    List.map_cons, decode_embedded_quote, decode_append_space_cons,
    split_ofArguments decodedNoQuote, split_ofArguments decodedNoQuote]
  constructor
  · intro even
    have safe : isSafeBehind 0 (decode middle ++ ' ' :: decode back) =
        true := by
      refine isSafeBehind_of_not_mem ?_
      rw [List.mem_append, List.mem_cons]
      rintro (member | isSpace | member)
      · exact decodedMiddle.noBackslash member
      · exact space_ne_backslash isSpace.symm
      · exact decodedBack.noBackslash member
    rw [delivered_embedded_quote_of_even frontClear even safe]
    rfl
  · intro odd plain
    have decodedPlain := isWrapped_of_mem_map_decode plain
    refine congrArg (List.cons (decode program)) ?_
    refine (delivered_embedded_quote_of_odd frontClear odd
      decodedMiddle.solid decodedBack decodedPlain).trans ?_
    rw [written_of_plain decodedPlain, List.flatMap_map]
    rfl

/-- Of two backslashes before a quote one is left.  Behind a single one the
argument is torn apart, and its end runs into the next. -/
theorem split_decode_ofArguments_embedded_quote_sample :
    split (decode (ofArguments (ofString "p")
        [ofString "a\\\\\"b c", ofString "next"])) =
      ["p".toList, "a\\\"b c".toList, "next".toList] ∧
    split (decode (ofArguments (ofString "p")
        [ofString "a\\\"b c", ofString "next"])) =
      ["p".toList, "a\\b".toList, "c next".toList] := by
  have damage (count : Nat) := split_decode_ofArguments_embedded_quote
    (ofString "p") (ofString "a") (ofString "b") (ofString "c") count
    [ofString "next"] (by decide) (by decide) (by decide) (by decide)
  have alone := (split_decode_ofArguments_eq_iff (ofString "p")
    [ofString "next"]).mpr (by decide)
  have bare := (isWrapped_eq_false_iff_needsQuoting (ofString "next")).mp
    (by decide)
  constructor
  · refine ((damage 2).1 rfl).trans ?_
    rw [alone]
    decide
  · exact ((damage 1).2 rfl (by simpa using bare)).trans (by decide)

end WindowedLauncher.CommandLine
