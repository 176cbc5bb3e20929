import WindowedLauncher.CommandLine.Blocks
import WindowedLauncher.Proofs.Turns
import WindowedLauncher.Proofs.Written

/-!
# Reading by turns and reading in blocks

A block is read by arithmetic on two run lengths, while the scanner takes its
backslashes and double quotes one at a time.  Counting double quotes modulo
three gives what a whole run of them does (`foldl_takeDoubleQuote`), and the
backslashes in front only decide about the first of the run
(`takeBlock_eq`).  Between blocks both copy what they read, so a command line
is split alike by both (`split_eq_splitInBlocks`).
-/

namespace WindowedLauncher.CommandLine

/-! ## Runs of one character -/

theorem drop_runLength (character : Char) (text : List Char) :
    text.drop (runLength character text) =
      text.dropWhile (· = character) := by
  have parts := List.takeWhile_append_dropWhile (p := (· = character))
    (l := text)
  calc
    text.drop (runLength character text) =
        (text.takeWhile (· = character) ++
          text.dropWhile (· = character)).drop
            (text.takeWhile (· = character)).length := by
      rw [parts, runLength]
    _ = text.dropWhile (· = character) := List.drop_left

theorem runLength_pos_iff (character : Char) (text : List Char) :
    0 < runLength character text ↔ text.head? = some character := by
  cases text with
  | nil => simp [runLength]
  | cons first text =>
      by_cases same : first = character
      · simp [runLength, same]
      · simp [runLength, same]

/-- Whether a text starts with backslashes, if any, and a double quote. -/
def StartsBlock (text : List Char) : Prop :=
  (text.dropWhile (· = '\\')).head? = some '"'

/-- A block is a run of backslashes with a run of quotes behind it. -/
theorem startsBlock_iff (text : List Char) :
    StartsBlock text ↔
      0 < runLength '"' (text.drop (runLength '\\' text)) := by
  rw [runLength_pos_iff, drop_runLength, StartsBlock]

theorem startsBlock_backslash_cons (text : List Char) :
    StartsBlock ('\\' :: text) ↔ StartsBlock text := by
  rw [StartsBlock, List.dropWhile_cons_of_pos (by decide), StartsBlock]

theorem startsBlock_doubleQuote_cons (text : List Char) :
    StartsBlock ('"' :: text) := by
  rw [StartsBlock, List.dropWhile_cons_of_neg (by decide), List.head?_cons]

/-! ## Runs of double quotes, by their length -/

namespace Quoting

/-- Where a count of double quotes leaves the reader. -/
def ofCount (count : Nat) : Quoting :=
  match count % 3 with
  | 0 => .outside
  | 1 => .inside
  | _ => .closed

@[simp]
theorem count_ofCount (count : Nat) : (ofCount count).count = count % 3 := by
  have below : count % 3 < 3 := Nat.mod_lt count (by decide)
  rw [ofCount]
  match count % 3, below with
  | 0, _ => rfl
  | 1, _ => rfl
  | 2, _ => rfl

@[simp]
theorem ofCount_count (quoting : Quoting) :
    ofCount quoting.count = quoting := by
  cases quoting <;> rfl

/-- A double quote that is text starts the count again. -/
theorem ofCount_mod_add (count further : Nat) :
    ofCount (count % 3 + further) = ofCount (count + further) := by
  rw [ofCount, ofCount, Nat.mod_add_mod]

/-- A run of quotes that ends counts as one or none. -/
theorem count_settle_ofCount (count : Nat) :
    (ofCount count).settle.count = if count % 3 = 1 then 1 else 0 := by
  have below : count % 3 < 3 := Nat.mod_lt count (by decide)
  rw [ofCount]
  match count % 3, below with
  | 0, _ => rfl
  | 1, _ => rfl
  | 2, _ => rfl

end Quoting

namespace Fragment

/-- Without a backslash before it, a quote counts on from those before. -/
theorem takeDoubleQuote_of_decided
    {fragment : Fragment} (decided : fragment.backslashes = 0) :
    fragment.takeDoubleQuote =
      ⟨fragment.text ++
          List.replicate ((fragment.quoting.count + 1) / 3) '"', 0,
        .ofCount (fragment.quoting.count + 1)⟩ := by
  rw [takeDoubleQuote_of_even (by rw [decided]), decided]
  cases fragment.quoting <;> simp [Quoting.count, Quoting.ofCount]

/-- Of all the double quotes counted, every third is text. -/
theorem foldl_takeDoubleQuote
    (fragment : Fragment) (decided : fragment.backslashes = 0)
    (quotes : List Char) :
    quotes.foldl (fun current _ => current.takeDoubleQuote) fragment =
      ⟨fragment.text ++ List.replicate
          ((fragment.quoting.count + quotes.length) / 3) '"', 0,
        .ofCount (fragment.quoting.count + quotes.length)⟩ := by
  induction quotes generalizing fragment with
  | nil =>
      have few : fragment.quoting.count / 3 = 0 := by
        cases fragment.quoting <;> rfl
      rw [List.foldl_nil, List.length_nil, Nat.add_zero, few,
        List.replicate_zero, List.append_nil, Quoting.ofCount_count,
        ← decided]
  | cons quote quotes ih =>
      have thirds : ∀ count further : Nat,
          (count + 1) / 3 + ((count + 1) % 3 + further) / 3 =
            (count + (further + 1)) / 3 := by
        omega
      have counted : ∀ count further : Nat,
          Quoting.ofCount (count + 1 + further) =
            .ofCount (count + (further + 1)) := by
        intro count further
        rw [Nat.add_right_comm, Nat.add_assoc]
      rw [List.foldl_cons, takeDoubleQuote_of_decided decided, ih _ rfl,
        Quoting.count_ofCount, List.length_cons, List.append_assoc,
        List.replicate_append_replicate, thirds, Quoting.ofCount_mod_add,
        counted]

/-- Takes a block: its double quotes, behind the backslashes held back. -/
def takeBlock (fragment : Fragment) (quotes : List Char) : Fragment :=
  quotes.foldl (fun current _ => current.takeDoubleQuote) fragment

/-- The backslashes of a block decide about its first double quote only. -/
theorem takeBlock_eq
    (fragment : Fragment)
    {quotes : List Char} (nonempty : quotes ≠ []) :
    fragment.takeBlock quotes =
      ⟨fragment.text ++ blockText fragment.quoting.count
          fragment.backslashes quotes.length, 0,
        .ofCount (fragment.quoting.count + quotes.length -
          fragment.backslashes % 2)⟩ := by
  obtain ⟨quote, further, rfl⟩ := List.exists_cons_of_ne_nil nonempty
  rw [takeBlock, List.length_cons, blockText]
  rcases Nat.mod_two_eq_zero_or_one fragment.backslashes with even | odd
  · -- The first double quote is counted, as if no backslash stood before it.
    have counted : fragment.takeDoubleQuote =
        takeDoubleQuote ⟨fragment.text ++
          List.replicate (fragment.backslashes / 2) '\\', 0,
            fragment.quoting⟩ := by
      rw [takeDoubleQuote_of_even even, takeDoubleQuote_of_even rfl]
      simp
    have whole := foldl_takeDoubleQuote ⟨fragment.text ++
      List.replicate (fragment.backslashes / 2) '\\', 0,
        fragment.quoting⟩ rfl (quote :: further)
    rw [List.foldl_cons, ← counted, List.length_cons] at whole
    rw [List.foldl_cons, whole, even, Nat.sub_zero, Nat.zero_add,
      List.append_assoc]
  · -- The first double quote is text, and the count starts behind it.
    have behind : fragment.quoting.count + (further.length + 1) - 1 =
        fragment.quoting.count + further.length :=
      Nat.add_succ_sub_one _ _
    rw [List.foldl_cons, takeDoubleQuote_of_odd odd,
      foldl_takeDoubleQuote _ rfl, odd, behind, Nat.add_comm 1,
      List.replicate_succ]
    simp

end Fragment

/-! ## Blocks -/

/-- The scanner stands where a block may begin. -/
structure Fragment.AtBlock (fragment : Fragment) (text : List Char) :
    Prop where
  notClosed : fragment.quoting ≠ .closed
  decided : StartsBlock text → fragment.backslashes = 0

/-- What is left of a text behind the block that it starts with. -/
def behindBlock (text : List Char) : List Char :=
  (text.dropWhile (· = '\\')).dropWhile (· = '"')

namespace Fragment

theorem atBlock_empty (text : List Char) : AtBlock .empty text :=
  ⟨by decide, fun _ => rfl⟩

/-- Behind a character that is copied, no backslash of a block is held. -/
theorem AtBlock.advance
    {fragment : Fragment} {character : Char} {text : List Char}
    (ready : fragment.AtBlock (character :: text))
    (copied : ¬ StartsBlock (character :: text)) :
    (fragment.advance character).AtBlock text := by
  have noQuote : character ≠ '"' := by
    rintro rfl
    exact copied (startsBlock_doubleQuote_cons text)
  constructor
  · rw [fragment.quoting_advance noQuote]
    exact Quoting.settle_ne_closed fragment.quoting
  · intro starts
    rw [fragment.backslashes_advance noQuote]
    refine if_neg ?_
    rintro rfl
    exact copied ((startsBlock_backslash_cons text).mpr starts)

/-- The fragment behind the block that a text starts with. -/
def afterBlock (fragment : Fragment) (text : List Char) : Fragment :=
  (takeBlock ⟨fragment.text, runLength '\\' text, fragment.quoting⟩
    ((text.dropWhile (· = '\\')).takeWhile (· = '"'))).settled

theorem doubleQuotes_ne_nil
    {text : List Char} (starts : StartsBlock text) :
    (text.dropWhile (· = '\\')).takeWhile (· = '"') ≠ [] :=
  List.ne_nil_of_length_pos ((runLength_pos_iff '"' _).mpr starts)

theorem atBlock_afterBlock
    (fragment : Fragment)
    {text : List Char} (starts : StartsBlock text) (rest : List Char) :
    (fragment.afterBlock text).AtBlock rest := by
  constructor
  · exact Quoting.settle_ne_closed _
  · intro _
    rw [afterBlock, takeBlock_eq _ (doubleQuotes_ne_nil starts), settled]

theorem complete_afterBlock
    {fragment : Fragment} {text : List Char}
    (ready : fragment.AtBlock text) (starts : StartsBlock text) :
    (fragment.afterBlock text).complete =
      fragment.complete ++ blockText fragment.quoting.count
        (runLength '\\' text)
        (runLength '"' (text.drop (runLength '\\' text))) := by
  rw [afterBlock, takeBlock_eq _ (doubleQuotes_ne_nil starts),
    drop_runLength]
  simp [settled, complete, ready.decided starts, runLength]

theorem count_afterBlock
    (fragment : Fragment)
    {text : List Char} (starts : StartsBlock text) :
    (fragment.afterBlock text).quoting.count =
      quotedAfter fragment.quoting.count (runLength '\\' text)
        (runLength '"' (text.drop (runLength '\\' text))) := by
  rw [afterBlock, takeBlock_eq _ (doubleQuotes_ne_nil starts),
    drop_runLength, settled]
  exact Quoting.count_settle_ofCount _

end Fragment

namespace Scanner

/-- The scanner takes the block that a text starts with as a whole. -/
theorem result_run_block
    (finished : List (List Char)) {fragment : Fragment} {text : List Char}
    (ready : fragment.AtBlock text) (starts : StartsBlock text) :
    (run ⟨finished, some fragment⟩ text).result =
      (run ⟨finished, some (fragment.afterBlock text)⟩
        (behindBlock text)).result := by
  have held := run_backslashes finished fragment ready.notClosed
    (text.takeWhile (· = '\\')) (fun _ => eq_of_mem_takeWhile)
  rw [ready.decided starts, Nat.zero_add] at held
  have taken := run_doubleQuotes finished
    ⟨fragment.text, runLength '\\' text, fragment.quoting⟩
    ((text.dropWhile (· = '\\')).takeWhile (· = '"'))
    (fun _ => eq_of_mem_takeWhile)
  calc
    (run ⟨finished, some fragment⟩ text).result =
        (run ⟨finished, some ⟨fragment.text, runLength '\\' text,
          fragment.quoting⟩⟩ (text.dropWhile (· = '\\'))).result := by
      rw [runLength, ← held, ← run_append, List.takeWhile_append_dropWhile]
    _ = (run ⟨finished, some (Fragment.takeBlock ⟨fragment.text,
          runLength '\\' text, fragment.quoting⟩
          ((text.dropWhile (· = '\\')).takeWhile (· = '"')))⟩
          (behindBlock text)).result := by
      rw [Fragment.takeBlock, ← taken, behindBlock, ← run_append,
        List.takeWhile_append_dropWhile]
    _ = (run ⟨finished, some (fragment.afterBlock text)⟩
          (behindBlock text)).result :=
      (result_run_settled finished _
        (head_dropWhile_ne_doubleQuote _)).symm

theorem endsAt_iff
    (finished : List (List Char)) {fragment : Fragment}
    (notClosed : fragment.quoting ≠ .closed) (character : Char) :
    EndsAt ⟨finished, some fragment⟩ character ↔
      (isBlank character && fragment.quoting.count = 0) = true := by
  rw [EndsAt, IsOutside, fragment_some,
    Quoting.settle_of_ne_closed notClosed, Bool.and_eq_true,
    decide_eq_true_eq, Quoting.count_eq_zero_iff]

/-! ## Whole command lines -/

/-- From where a block may begin, both readers give the same arguments. -/
theorem readBlocks_eq_result_run
    (fragment : Fragment) (text : List Char)
    (ready : fragment.AtBlock text) :
    readBlocks fragment.quoting.count fragment.complete text =
      (run ⟨[], some fragment⟩ text).result := by
  generalize quoting : fragment.quoting.count = quoted
  generalize content : fragment.complete = argument
  fun_induction readBlocks quoted argument text
    generalizing fragment with
  | case1 quoted argument =>
      subst content
      rfl
  | case2 quoted argument character rest backslashes behind doubleQuotes
      block ih =>
      subst quoting content
      have starts : StartsBlock (character :: rest) :=
        (startsBlock_iff _).mpr block
      have left : behind.drop doubleQuotes =
          behindBlock (character :: rest) := by
        rw [behindBlock, ← drop_runLength '\\', ← drop_runLength '"']
      rw [result_run_block [] ready starts, ← left]
      apply ih
      · exact fragment.atBlock_afterBlock starts _
      · exact fragment.count_afterBlock starts
      · exact Fragment.complete_afterBlock ready starts
  | case3 quoted argument character rest backslashes behind doubleQuotes
      noBlock ends next nothing =>
      subst quoting content
      rw [result_run_of_endsAt
        ((endsAt_iff [] ready.notClosed character).mpr ends),
        run_start_of_eq_nil nothing]
      rfl
  | case4 quoted argument character rest backslashes behind doubleQuotes
      noBlock ends next more ih =>
      subst quoting content
      rw [result_run_of_endsAt
        ((endsAt_iff [] ready.notClosed character).mpr ends),
        run_start_of_ne_nil more]
      exact congrArg (List.cons fragment.complete)
        (ih .empty (Fragment.atBlock_empty next) rfl rfl)
  | case5 quoted argument character rest backslashes behind doubleQuotes
      noBlock stays ih =>
      subst quoting content
      have copied : ¬ StartsBlock (character :: rest) :=
        mt (startsBlock_iff _).mp noBlock
      have noQuote : character ≠ '"' := by
        rintro rfl
        exact copied (startsBlock_doubleQuote_cons rest)
      rw [run_cons, step_of_not_endsAt
        (mt (endsAt_iff [] ready.notClosed character).mp stays)]
      apply ih
      · exact ready.advance copied
      · rw [fragment_some, fragment.quoting_advance noQuote,
          Quoting.settle_of_ne_closed ready.notClosed]
      · exact fragment.complete_advance noQuote

end Scanner

/-- Reading block by block gives what the scanner finds. -/
theorem argumentsInBlocks_eq (text : List Char) :
    argumentsInBlocks text = (Scanner.start.run text).result := by
  rw [argumentsInBlocks]
  split
  next nothing =>
    rw [Scanner.run_start_of_eq_nil nothing]
    rfl
  next more =>
    rw [Scanner.run_start_of_ne_nil more]
    exact Scanner.readBlocks_eq_result_run .empty _
      (Fragment.atBlock_empty _)

theorem splitInBlocks_eq (line : List Char) :
    splitInBlocks line = (programAndRest line).1 ::
      argumentsInBlocks (programAndRest line).2 := by
  rw [splitInBlocks.eq_def]
  split
  next text =>
    rw [List.drop_one]
    rfl
  next unquoted =>
    have headOther : line.head? ≠ some '"' := by
      intro quoted
      obtain ⟨text, rfl⟩ := List.head?_eq_some_iff.mp quoted
      exact unquoted text rfl
    rw [programAndRest_of_head_ne headOther]

/--
Reading a command line turn by turn and reading it in blocks, by the lengths
of its runs, gives the same arguments.
-/
theorem split_eq_splitInBlocks (line : List Char) :
    split line = splitInBlocks line := by
  rw [split_eq_scan, splitInBlocks_eq, argumentsInBlocks_eq]

end WindowedLauncher.CommandLine
