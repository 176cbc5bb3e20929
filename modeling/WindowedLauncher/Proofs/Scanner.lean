import WindowedLauncher.CommandLine.Alphabet

/-!
# Reading a command line one character at a time

A scanner holds the backslashes at the end of an argument back until the next
character decides about them, and every double quote is a step of its own.
What a text does to it is therefore a fold over its characters, and what it
has finished is never touched again (`result_run_between`).
-/

namespace WindowedLauncher.CommandLine

/-- Where the double quotes counted so far leave the reader. -/
inductive Quoting where
  | outside
  | inside
  /-- Right behind the double quote that ends a quoted stretch. -/
  | closed
deriving DecidableEq

namespace Quoting

/-- What is left of the count when a run of double quotes ends. -/
def settle : Quoting → Quoting
  | .outside => .outside
  | .inside => .inside
  | .closed => .outside

@[simp]
theorem settle_settle (quoting : Quoting) :
    quoting.settle.settle = quoting.settle := by
  cases quoting <;> rfl

theorem settle_of_ne_closed
    {quoting : Quoting} (notClosed : quoting ≠ .closed) :
    quoting.settle = quoting := by
  cases quoting with
  | outside => rfl
  | inside => rfl
  | closed => exact absurd rfl notClosed

theorem settle_ne_closed (quoting : Quoting) :
    quoting.settle ≠ .closed := by
  cases quoting <;> decide

end Quoting

/-! ## The argument that is being read -/

/-- An argument being read, without the backslashes that are held back. -/
structure Fragment where
  text : List Char
  backslashes : Nat
  quoting : Quoting

namespace Fragment

/-- Nothing has been read of the argument yet. -/
def empty : Fragment :=
  ⟨[], 0, .outside⟩

/-- The argument if nothing were to follow. -/
def complete (fragment : Fragment) : List Char :=
  fragment.text ++ List.replicate fragment.backslashes '\\'

@[simp]
theorem complete_empty : empty.complete = [] :=
  rfl

/--
A double quote lets half of the backslashes pass.  Behind an odd number of
them it is text, and so is the third of a run.
-/
def takeDoubleQuote (fragment : Fragment) : Fragment :=
  let kept :=
    fragment.text ++ List.replicate (fragment.backslashes / 2) '\\'
  if fragment.backslashes % 2 = 1 then
    ⟨kept ++ ['"'], 0, fragment.quoting⟩
  else
    match fragment.quoting with
    | .outside => ⟨kept, 0, .inside⟩
    | .inside => ⟨kept, 0, .closed⟩
    | .closed => ⟨kept ++ ['"'], 0, .outside⟩

theorem backslashes_takeDoubleQuote (fragment : Fragment) :
    fragment.takeDoubleQuote.backslashes = 0 := by
  unfold takeDoubleQuote
  split
  · rfl
  · cases fragment.quoting <;> rfl

/-- Takes a character that does not end the argument. -/
def advance (fragment : Fragment) (character : Char) : Fragment :=
  if character = '"' then
    fragment.takeDoubleQuote
  else if character = '\\' then
    ⟨fragment.text, fragment.backslashes + 1, fragment.quoting.settle⟩
  else
    ⟨fragment.complete ++ [character], 0, fragment.quoting.settle⟩

theorem takeDoubleQuote_of_odd
    {fragment : Fragment} (odd : fragment.backslashes % 2 = 1) :
    fragment.takeDoubleQuote =
      ⟨fragment.text ++ List.replicate (fragment.backslashes / 2) '\\' ++
        ['"'], 0, fragment.quoting⟩ :=
  if_pos odd

theorem takeDoubleQuote_of_even
    {fragment : Fragment} (even : fragment.backslashes % 2 = 0) :
    fragment.takeDoubleQuote =
      match fragment.quoting with
      | .outside => ⟨fragment.text ++
          List.replicate (fragment.backslashes / 2) '\\', 0, .inside⟩
      | .inside => ⟨fragment.text ++
          List.replicate (fragment.backslashes / 2) '\\', 0, .closed⟩
      | .closed => ⟨fragment.text ++
          List.replicate (fragment.backslashes / 2) '\\' ++ ['"'], 0,
            .outside⟩ :=
  if_neg (by omega)

theorem complete_advance
    (fragment : Fragment) {character : Char} (noQuote : character ≠ '"') :
    (fragment.advance character).complete =
      fragment.complete ++ [character] := by
  rw [advance, if_neg noQuote]
  split
  next isBackslash =>
    subst isBackslash
    simp [complete, List.replicate_succ']
  next =>
    simp [complete]

theorem quoting_advance
    (fragment : Fragment) {character : Char} (noQuote : character ≠ '"') :
    (fragment.advance character).quoting = fragment.quoting.settle := by
  rw [advance, if_neg noQuote]
  split <;> rfl

theorem backslashes_advance
    (fragment : Fragment) {character : Char} (noQuote : character ≠ '"') :
    (fragment.advance character).backslashes =
      if character = '\\' then fragment.backslashes + 1 else 0 := by
  rw [advance, if_neg noQuote]
  split <;> rfl

/-- Takes a backslash and the double quote behind it. -/
def takeEscaped (fragment : Fragment) : Fragment :=
  takeDoubleQuote
    ⟨fragment.text, fragment.backslashes + 1, fragment.quoting.settle⟩

theorem takeEscaped_of_inside
    {fragment : Fragment} (inside : fragment.quoting = .inside)
    (none : fragment.backslashes = 0) :
    fragment.takeEscaped = ⟨fragment.text ++ ['"'], 0, .inside⟩ := by
  simp [takeEscaped, takeDoubleQuote, none, inside, Quoting.settle]

/-- Behind a single backslash, an escaped double quote closes the quotes. -/
theorem takeEscaped_of_single
    {fragment : Fragment} (inside : fragment.quoting = .inside)
    (single : fragment.backslashes = 1) :
    fragment.takeEscaped = ⟨fragment.text ++ ['\\'], 0, .closed⟩ := by
  simp [takeEscaped, takeDoubleQuote, single, inside, Quoting.settle]

/-- The fragment once the run of double quotes before it has ended. -/
def settled (fragment : Fragment) : Fragment :=
  ⟨fragment.text, fragment.backslashes, fragment.quoting.settle⟩

end Fragment

/-! ## Scanners -/

/-- The arguments that are finished, and the one being read, if any. -/
structure Scanner where
  finished : List (List Char)
  current : Option Fragment

namespace Scanner

/-- A scanner before the first character. -/
def start : Scanner :=
  ⟨[], none⟩

/-- The argument that is being read, or an empty one. -/
def fragment (scanner : Scanner) : Fragment :=
  scanner.current.getD .empty

@[simp]
theorem fragment_none (finished : List (List Char)) :
    fragment ⟨finished, none⟩ = .empty :=
  rfl

@[simp]
theorem fragment_some (finished : List (List Char)) (current : Fragment) :
    fragment ⟨finished, some current⟩ = current :=
  rfl

/-- The arguments if the text were to end here. -/
def result (scanner : Scanner) : List (List Char) :=
  scanner.finished ++ (scanner.current.map Fragment.complete).toList

/-- A blank would be no part of an argument here. -/
def IsOutside (scanner : Scanner) : Prop :=
  scanner.fragment.quoting.settle = .outside

/-- Whether the argument being read ends at the next character. -/
def EndsAt (scanner : Scanner) (character : Char) : Prop :=
  isBlank character = true ∧ scanner.IsOutside

instance (scanner : Scanner) (character : Char) :
    Decidable (scanner.EndsAt character) :=
  inferInstanceAs (Decidable (isBlank character = true ∧
    scanner.fragment.quoting.settle = .outside))

/-- A blank outside quotes ends the argument, and all else is part of one. -/
def step (scanner : Scanner) (character : Char) : Scanner :=
  if scanner.EndsAt character then
    ⟨scanner.result, none⟩
  else
    ⟨scanner.finished, some (scanner.fragment.advance character)⟩

/-- Reads one character after the other. -/
def run (scanner : Scanner) (text : List Char) : Scanner :=
  text.foldl step scanner

@[simp]
theorem run_nil (scanner : Scanner) : scanner.run [] = scanner :=
  rfl

@[simp]
theorem run_cons
    (scanner : Scanner) (character : Char) (text : List Char) :
    scanner.run (character :: text) =
      (scanner.step character).run text :=
  rfl

theorem run_append (scanner : Scanner) (first second : List Char) :
    scanner.run (first ++ second) = (scanner.run first).run second :=
  List.foldl_append

theorem step_of_endsAt
    {scanner : Scanner} {character : Char}
    (ends : scanner.EndsAt character) :
    scanner.step character = ⟨scanner.result, none⟩ :=
  if_pos ends

theorem step_of_not_endsAt
    {scanner : Scanner} {character : Char}
    (stays : ¬ scanner.EndsAt character) :
    scanner.step character =
      ⟨scanner.finished, some (scanner.fragment.advance character)⟩ :=
  if_neg stays

theorem not_endsAt_of_solid
    (scanner : Scanner)
    {character : Char} (solid : isBlank character = false) :
    ¬ scanner.EndsAt character := by
  intro ends
  rw [EndsAt, solid] at ends
  exact absurd ends.1 (by decide)

theorem isOutside_between (finished : List (List Char)) :
    IsOutside ⟨finished, none⟩ :=
  rfl

theorem endsAt_between
    (finished : List (List Char))
    {character : Char} (blank : isBlank character = true) :
    EndsAt ⟨finished, none⟩ character :=
  ⟨blank, isOutside_between finished⟩

theorem not_isOutside_iff (scanner : Scanner) :
    ¬ scanner.IsOutside ↔ scanner.fragment.quoting = .inside := by
  rw [IsOutside]
  cases scanner.fragment.quoting <;> decide

theorem not_endsAt_of_inside
    {scanner : Scanner} (inside : scanner.fragment.quoting = .inside)
    (character : Char) :
    ¬ scanner.EndsAt character := by
  intro ends
  exact (not_isOutside_iff scanner).mpr inside ends.2

theorem step_of_solid
    (scanner : Scanner)
    {character : Char} (solid : isBlank character = false) :
    scanner.step character =
      ⟨scanner.finished, some (scanner.fragment.advance character)⟩ :=
  step_of_not_endsAt (scanner.not_endsAt_of_solid solid)

@[simp]
theorem step_doubleQuote (scanner : Scanner) :
    scanner.step '"' =
      ⟨scanner.finished, some scanner.fragment.takeDoubleQuote⟩ :=
  scanner.step_of_solid (by decide)

@[simp]
theorem step_backslash (scanner : Scanner) :
    scanner.step '\\' =
      ⟨scanner.finished, some
        ⟨scanner.fragment.text, scanner.fragment.backslashes + 1,
          scanner.fragment.quoting.settle⟩⟩ :=
  scanner.step_of_solid (by decide)

theorem run_escaped (scanner : Scanner) :
    scanner.run ['\\', '"'] =
      ⟨scanner.finished, some scanner.fragment.takeEscaped⟩ := by
  rw [run_cons, run_cons, run_nil, step_backslash, step_doubleQuote]
  rfl

theorem run_some_escaped
    (finished : List (List Char)) (current : Fragment) :
    run ⟨finished, some current⟩ ['\\', '"'] =
      ⟨finished, some current.takeEscaped⟩ :=
  run_escaped _

/-! ## Finished arguments stay as they are -/

/-- The scanner with further finished arguments before its own. -/
def behind (before : List (List Char)) (scanner : Scanner) : Scanner :=
  ⟨before ++ scanner.finished, scanner.current⟩

theorem result_behind
    (before : List (List Char)) (scanner : Scanner) :
    (scanner.behind before).result = before ++ scanner.result := by
  simp [behind, result]

theorem step_behind
    (before : List (List Char)) (scanner : Scanner) (character : Char) :
    (scanner.behind before).step character =
      (scanner.step character).behind before := by
  by_cases ends : scanner.EndsAt character
  · have endsBehind : (scanner.behind before).EndsAt character := ends
    rw [step_of_endsAt ends, step_of_endsAt endsBehind, result_behind]
    rfl
  · have staysBehind : ¬ (scanner.behind before).EndsAt character := ends
    rw [step_of_not_endsAt ends, step_of_not_endsAt staysBehind]
    rfl

/-- The arguments that are finished do not matter to what follows. -/
theorem run_behind
    (before : List (List Char)) (scanner : Scanner) (text : List Char) :
    (scanner.behind before).run text =
      (scanner.run text).behind before := by
  induction text generalizing scanner with
  | nil => rfl
  | cons character text ih =>
      rw [run_cons, run_cons, step_behind, ih]

/-- What follows an end of an argument is read on its own. -/
theorem result_run_between
    (before : List (List Char)) (text : List Char) :
    (run ⟨before, none⟩ text).result =
      before ++ (start.run text).result := by
  have between : (⟨before, none⟩ : Scanner) = start.behind before := by
    simp [behind, start]
  rw [between, run_behind, result_behind]

/-- Behind the end of an argument, the others are read on their own. -/
theorem result_run_of_endsAt
    {fragment : Fragment} {character : Char}
    (ends : EndsAt ⟨[], some fragment⟩ character) (text : List Char) :
    (run ⟨[], some fragment⟩ (character :: text)).result =
      fragment.complete :: (start.run text).result := by
  rw [run_cons, step_of_endsAt ends, result_run_between]
  rfl

/-! ## Blanks, and runs of one character -/

/-- Blanks between arguments are passed over. -/
theorem run_between_dropBlanks
    (finished : List (List Char)) (text : List Char) :
    run ⟨finished, none⟩ (text.dropWhile isBlank) =
      run ⟨finished, none⟩ text := by
  induction text with
  | nil => rfl
  | cons character text ih =>
      cases blank : isBlank character with
      | false =>
          rw [List.dropWhile_cons_of_neg (by simp [blank])]
      | true =>
          have skipped :
              step ⟨finished, none⟩ character = ⟨finished, none⟩ := by
            rw [step_of_endsAt (endsAt_between finished blank)]
            simp [result]
          rw [List.dropWhile_cons_of_pos blank, ih, run_cons, skipped]

/-- A character that is no blank opens an argument. -/
theorem run_between_of_solid
    (finished : List (List Char))
    {character : Char} (solid : isBlank character = false)
    (text : List Char) :
    run ⟨finished, none⟩ (character :: text) =
      run ⟨finished, some .empty⟩ (character :: text) := by
  rw [run_cons, run_cons, step_of_solid _ solid, step_of_solid _ solid]
  rfl

/-- Backslashes wait for what follows. -/
theorem run_backslashes
    (finished : List (List Char)) (fragment : Fragment)
    (notClosed : fragment.quoting ≠ .closed)
    (backslashes : List Char)
    (allBackslashes : ∀ backslash ∈ backslashes, backslash = '\\') :
    run ⟨finished, some fragment⟩ backslashes =
      ⟨finished, some ⟨fragment.text,
        fragment.backslashes + backslashes.length, fragment.quoting⟩⟩ := by
  induction backslashes generalizing fragment with
  | nil => rfl
  | cons backslash backslashes ih =>
      rcases List.forall_mem_cons.mp allBackslashes with
        ⟨rfl, restBackslashes⟩
      have next := ih ⟨fragment.text, fragment.backslashes + 1,
        fragment.quoting⟩ notClosed restBackslashes
      rw [run_cons, step_backslash, fragment_some,
        Quoting.settle_of_ne_closed notClosed]
      refine next.trans ?_
      rw [List.length_cons, Nat.add_assoc, Nat.add_comm 1]

/-- Quotes are taken one by one. -/
theorem run_doubleQuotes
    (finished : List (List Char)) (fragment : Fragment)
    (quotes : List Char) (allQuotes : ∀ quote ∈ quotes, quote = '"') :
    run ⟨finished, some fragment⟩ quotes =
      ⟨finished, some (quotes.foldl
        (fun current _ => current.takeDoubleQuote) fragment)⟩ := by
  induction quotes generalizing fragment with
  | nil => rfl
  | cons quote quotes ih =>
      rcases List.forall_mem_cons.mp allQuotes with ⟨rfl, restQuotes⟩
      rw [run_cons, step_doubleQuote]
      exact ih fragment.takeDoubleQuote restQuotes

/-- Where a run of quotes ends, it does not matter that there was one. -/
theorem step_settled
    (finished : List (List Char)) (fragment : Fragment)
    {character : Char} (noQuote : character ≠ '"') :
    step ⟨finished, some fragment.settled⟩ character =
      step ⟨finished, some fragment⟩ character := by
  simp only [step, EndsAt, IsOutside, Scanner.fragment,
    Option.getD_some, Fragment.advance, Fragment.settled,
    Quoting.settle_settle, if_neg noQuote]
  rfl

/-- A count of two does not matter unless another double quote follows. -/
theorem result_run_settled
    (finished : List (List Char)) (fragment : Fragment)
    {text : List Char} (noQuote : text.head? ≠ some '"') :
    (run ⟨finished, some fragment.settled⟩ text).result =
      (run ⟨finished, some fragment⟩ text).result := by
  cases text with
  | nil => rfl
  | cons character text =>
      have differs : character ≠ '"' := by
        rintro rfl
        exact noQuote rfl
      rw [run_cons, run_cons, step_settled finished fragment differs]

end Scanner

end WindowedLauncher.CommandLine
