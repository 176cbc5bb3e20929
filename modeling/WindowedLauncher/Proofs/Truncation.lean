import WindowedLauncher.CommandLine.Progress
import WindowedLauncher.Text.Slice

/-!
# Backslashes are taken back safely

At a double quote the reader takes backslashes back that are already part of
the argument.  As the argument is a string of bytes, that could ask for more
bytes than there are, or for half a character; there is then no string that is
left (`truncate?`), and the reader would have to give up (`arguments?`).

It never does.  Wherever text is left an argument is open, it ends in at least
as many backslashes as are counted, and at most one double quote is counted
(`Sound`, kept by every turn).  So only backslashes are taken back, and the
reader that may give up splits every line like the one that does not
(`truncations_are_safe`).
-/

namespace WindowedLauncher.CommandLine

/-! ## Cutting bytes off -/

/-- What is left of a text without its last bytes, if it has that many and the
cut is between two characters. -/
def truncate? (text : List Char) (bytes : Nat) : Option (List Char) :=
  if bytes ≤ Text.size text then
    Text.takeBytes? (Text.size text - bytes) text
  else
    none

theorem size_replicate_backslash (count : Nat) :
    Text.size (List.replicate count '\\') = count := by
  have oneByte : '\\'.utf8Size = 1 := by decide
  induction count with
  | zero => rfl
  | succ count ih =>
      rw [List.replicate_succ, Text.size_cons, ih, oneByte, Nat.add_comm]

theorem size_append_backslashes (kept : List Char) (count : Nat) :
    Text.size (kept ++ List.replicate count '\\') =
      Text.size kept + count := by
  rw [Text.size_append, size_replicate_backslash]

/-- Backslashes at the end can be cut off, since each takes one byte. -/
theorem truncate?_append_backslashes (kept : List Char) (count : Nat) :
    truncate? (kept ++ List.replicate count '\\') count = some kept := by
  rw [truncate?, size_append_backslashes, if_pos (Nat.le_add_left _ _),
    Nat.add_sub_cancel, Text.takeBytes?_append]

namespace Reading

/-! ## A reader that may give up -/

/-- How many bytes a double quote takes back, for the backslashes before it. -/
def truncation (reading : Reading) : Nat :=
  if reading.backslashes % 2 = 0 then
    reading.backslashes / 2
  else
    reading.backslashes / 2 + 1

/-- Takes the first double quote of a run, if an argument is open and can be
cut. -/
def openRun? (reading : Reading) : Option Reading := do
  let argument ← reading.argument?
  let kept ← truncate? argument reading.truncation
  if reading.backslashes % 2 = 0 then
    return ⟨some kept.reverse, 0, reading.quotes + 1⟩
  else
    return ⟨some (kept ++ ['"']).reverse, 0, reading.quotes⟩

/-- The state behind a turn, if an argument is open and can be cut where it
has to be. -/
def next? (reading : Reading) (character : Char) (text : List Char) :
    Option Reading := do
  let _ ← reading.current
  if character = '"' then
    let opened ← reading.openRun?
    let further := text.takeWhile (· = '"')
    return (further.foldl (fun state _ => state.continueRun) opened).closeRun
  else
    return (reading.turn character text).state

/-- The arguments of a text, unless a turn gives up. -/
def arguments? (reading : Reading) : List Char → Option (List (List Char))
  | [] => some reading.argument?.toList
  | character :: text => do
    let next ← reading.next? character text
    let later ← next.arguments? (reading.turn character text).rest
    return (reading.turn character text).finished.toList ++ later
termination_by text => text.length
decreasing_by
  exact Nat.lt_succ_of_le (length_turn_rest_le reading character text)

/-! ## What every turn keeps -/

/-- Between two turns inside an argument: it ends in the backslashes that are
counted, and at most one double quote is counted. -/
structure Sound (reading : Reading) (argument : List Char) : Prop where
  current : reading.current = some argument.reverse
  quotes : reading.quotes ≤ 1
  backslashes : List.replicate reading.backslashes '\\' <:+ argument

/-- Inside a run of double quotes: no backslash is counted any more, and two
double quotes may be. -/
structure InRun (reading : Reading) (argument : List Char) : Prop where
  current : reading.current = some argument.reverse
  quotes : reading.quotes ≤ 2
  backslashes : reading.backslashes = 0

variable {reading : Reading} {argument : List Char}

theorem Sound.newest (sound : Sound reading argument) :
    reading.newest = argument.reverse := by
  rw [Reading.newest, sound.current, Option.getD_some]

theorem Sound.argument? (sound : Sound reading argument) :
    reading.argument? = some argument := by
  rw [Reading.argument?, sound.current, Option.map_some,
    List.reverse_reverse]

theorem sound_atArgument {text : List Char} (nonempty : text ≠ []) :
    Sound (atArgument text) [] := by
  obtain ⟨character, text, rfl⟩ := List.exists_cons_of_ne_nil nonempty
  exact ⟨rfl, Nat.zero_le 1, List.nil_suffix⟩

theorem Sound.takeBackslash (sound : Sound reading argument) :
    Sound reading.takeBackslash (argument ++ ['\\']) := by
  obtain ⟨front, parts⟩ := sound.backslashes
  refine ⟨?_, sound.quotes, front, ?_⟩
  · rw [Reading.takeBackslash, sound.newest, List.reverse_concat]
  · rw [Reading.takeBackslash, List.replicate_succ', ← List.append_assoc,
      parts]

theorem Sound.takeOrdinary
    (sound : Sound reading argument) (character : Char) :
    Sound (reading.takeOrdinary character)
      (argument ++ [character]) := by
  refine ⟨?_, sound.quotes, List.nil_suffix⟩
  rw [Reading.takeOrdinary, sound.newest, List.reverse_concat]

/-- No more is cut off than the backslashes that wait. -/
theorem truncation_le (reading : Reading) :
    reading.truncation ≤ reading.backslashes := by
  rw [truncation]
  split <;> omega

/-- What a double quote takes back are backslashes. -/
theorem Sound.exists_kept (sound : Sound reading argument) :
    ∃ kept, argument =
      kept ++ List.replicate reading.truncation '\\' := by
  obtain ⟨front, parts⟩ := sound.backslashes
  have fewer := Nat.sub_add_cancel reading.truncation_le
  refine ⟨front ++
    List.replicate (reading.backslashes - reading.truncation) '\\', ?_⟩
  rw [List.append_assoc, List.replicate_append_replicate, fewer, parts]

/-- The first double quote of a run, in terms of what is kept. -/
theorem Sound.openRun_eq
    (sound : Sound reading argument)
    {kept : List Char}
    (parts : argument = kept ++ List.replicate reading.truncation '\\') :
    reading.openRun =
      if reading.backslashes % 2 = 0 then
        ⟨some kept.reverse, 0, reading.quotes + 1⟩
      else
        ⟨some (kept ++ ['"']).reverse, 0, reading.quotes⟩ := by
  have left : reading.newest.drop reading.truncation = kept.reverse := by
    rw [sound.newest, parts, List.reverse_append, List.reverse_replicate,
      List.drop_left' List.length_replicate]
  rw [openRun]
  rw [truncation] at left
  split
  next even =>
    rw [if_pos even] at left
    rw [left]
  next odd =>
    rw [if_neg odd] at left
    rw [left, List.reverse_concat]

theorem Sound.openRun (sound : Sound reading argument) :
    ∃ after, InRun reading.openRun after := by
  obtain ⟨kept, parts⟩ := sound.exists_kept
  rw [sound.openRun_eq parts]
  split
  · exact ⟨kept, rfl, Nat.succ_le_succ sound.quotes, rfl⟩
  · exact ⟨kept ++ ['"'], rfl, Nat.le_succ_of_le sound.quotes, rfl⟩

theorem InRun.continueRun (run : InRun reading argument) :
    ∃ after, InRun reading.continueRun after := by
  have few := run.quotes
  rw [Reading.continueRun]
  split
  next third =>
    refine ⟨argument ++ ['"'], ?_, Nat.zero_le 2, run.backslashes⟩
    rw [Reading.newest, run.current, Option.getD_some, List.reverse_concat]
  next fewer =>
    refine ⟨argument, run.current, ?_, run.backslashes⟩
    change reading.quotes + 1 ≤ 2
    omega

theorem InRun.foldl_continueRun
    (run : InRun reading argument) (further : List Char) :
    ∃ after, InRun
      (further.foldl (fun state _ => state.continueRun) reading) after := by
  induction further generalizing reading argument with
  | nil => exact ⟨argument, run⟩
  | cons quote further ih =>
      obtain ⟨after, continued⟩ := run.continueRun
      exact ih continued

theorem InRun.closeRun (run : InRun reading argument) :
    Sound reading.closeRun argument := by
  have few := run.quotes
  have suffix : List.replicate reading.backslashes '\\' <:+ argument := by
    rw [run.backslashes]
    exact List.nil_suffix
  rw [Reading.closeRun]
  split
  next two => exact ⟨run.current, Nat.zero_le 1, suffix⟩
  next notTwo => exact ⟨run.current, by omega, suffix⟩

/-- A turn that leaves text ends inside an argument, the same or a new one. -/
theorem Sound.turn
    (sound : Sound reading argument) (character : Char) (text : List Char) :
    (reading.turn character text).rest ≠ [] →
      ∃ after, Sound (reading.turn character text).state after := by
  rw [Reading.turn]
  split
  next cut => exact fun more => ⟨[], sound_atArgument more⟩
  next stays =>
    intro _
    split
    next isBackslash => exact ⟨_, sound.takeBackslash⟩
    next notBackslash =>
      split
      next isQuote =>
        obtain ⟨opened, inRun⟩ := sound.openRun
        obtain ⟨after, stillInRun⟩ := inRun.foldl_continueRun _
        exact ⟨after, stillInRun.closeRun⟩
      next ordinary => exact ⟨_, sound.takeOrdinary character⟩

/-- A reading is sound at each of its turns. -/
theorem Visits.sound
    {start : Reading} {text rest : List Char}
    (initial : text ≠ [] → ∃ argument, Sound start argument)
    (visited : Visits start text reading rest) (more : rest ≠ []) :
    ∃ argument, Sound reading argument := by
  induction visited with
  | start => exact initial more
  | turn visited ih =>
      -- The turn before had at least its own character left to read.
      obtain ⟨argument, sound⟩ := ih (List.cons_ne_nil _ _)
      exact sound.turn _ _ more

/-! ## No turn gives up -/

theorem Sound.openRun? (sound : Sound reading argument) :
    reading.openRun? = some reading.openRun := by
  obtain ⟨kept, parts⟩ := sound.exists_kept
  have cut : truncate? argument reading.truncation = some kept := by
    rw [parts, truncate?_append_backslashes]
  rw [Reading.openRun?, sound.argument?, sound.openRun_eq parts]
  simp only [Option.bind_eq_bind, Option.bind_some, cut]
  split <;> rfl

theorem Sound.next?
    (sound : Sound reading argument) (character : Char)
    (text : List Char) :
    reading.next? character text =
      some (reading.turn character text).state := by
  rw [Reading.next?, sound.current]
  simp only [Option.bind_eq_bind, Option.bind_some]
  split
  next isQuote =>
    subst isQuote
    rw [sound.openRun?]
    rfl
  next => rfl

/-- A sound reading never gives up. -/
theorem arguments?_eq_some
    (reading : Reading) (text : List Char)
    (sound : text ≠ [] → ∃ argument, Sound reading argument) :
    reading.arguments? text = some (reading.arguments text) := by
  induction reading, text using Reading.arguments.induct with
  | case1 reading => rw [arguments?, arguments]
  | case2 reading character text next ih =>
      obtain ⟨argument, sound⟩ := sound (List.cons_ne_nil _ _)
      have later := ih (sound.turn character text)
      rw [arguments?, arguments, sound.next?]
      simp only [Option.bind_eq_bind, Option.bind_some]
      rw [later]
      rfl

end Reading

/-- The arguments of a command line, unless the reader gives up. -/
def split? (line : List Char) : Option (List (List Char)) :=
  let (program, text) := programAndRest line
  let rest := text.dropWhile isBlank
  ((Reading.atArgument rest).arguments? rest).map (program :: ·)

/--
Wherever the reader of a command line has text left, an argument is open that
ends in at least as many backslashes as are counted, and at most one double
quote is counted.  The bytes that a double quote would take back there are all
in the argument and are backslashes, and what is left is a text.  The reader
that gives up where this fails therefore splits every command line, and as the
other reader does.
-/
theorem truncations_are_safe (line : List Char) :
    (∀ (reading : Reading) (character : Char) (text : List Char),
      Reading.Visits
          (.atArgument ((programAndRest line).2.dropWhile isBlank))
          ((programAndRest line).2.dropWhile isBlank)
          reading (character :: text) →
        ∃ argument, reading.Sound argument ∧
          reading.truncation ≤ Text.size argument ∧
          ∃ kept, truncate? argument reading.truncation = some kept ∧
            argument =
              kept ++ List.replicate reading.truncation '\\') ∧
      split? line = some (split line) := by
  have initial : ∀ text : List Char, text ≠ [] →
      ∃ argument, Reading.Sound (.atArgument text) argument :=
    fun text nonempty => ⟨[], Reading.sound_atArgument nonempty⟩
  constructor
  · intro reading character text visited
    obtain ⟨argument, sound⟩ :=
      visited.sound (initial _) (List.cons_ne_nil character text)
    obtain ⟨kept, parts⟩ := sound.exists_kept
    refine ⟨argument, sound, ?_, kept, ?_, parts⟩
    · rw [parts, size_append_backslashes]
      exact Nat.le_add_left _ _
    · rw [parts, truncate?_append_backslashes]
  · rw [split?]
    change Option.map _ (Reading.arguments? _ _) = _
    rw [Reading.arguments?_eq_some _ _ (initial _)]
    rfl

/-- The backslash before the double quote is taken back, and the character of
two bytes before it stays whole. -/
theorem truncations_are_safe_sample :
    Reading.Visits (.atArgument ['æ', '\\', '"']) ['æ', '\\', '"']
        ⟨some ['\\', 'æ'], 1, 0⟩ ['"'] ∧
      (∃ kept, truncate? ['æ', '\\'] 1 = some kept ∧
        ['æ', '\\'] = kept ++ ['\\']) ∧
      split? ['p', ' ', 'æ', '\\', '"'] = some [['p'], ['æ', '"']] := by
  have first : Reading.Visits (.atArgument ['æ', '\\', '"'])
      ['æ', '\\', '"'] ⟨some [], 0, 0⟩ ['æ', '\\', '"'] :=
    .start
  have second : Reading.Visits (.atArgument ['æ', '\\', '"'])
      ['æ', '\\', '"'] ⟨some ['æ'], 0, 0⟩ ['\\', '"'] :=
    first.turn
  have third : Reading.Visits (.atArgument ['æ', '\\', '"'])
      ['æ', '\\', '"'] ⟨some ['\\', 'æ'], 1, 0⟩ ['"'] :=
    second.turn
  obtain ⟨safe, splits⟩ := truncations_are_safe ['p', ' ', 'æ', '\\', '"']
  obtain ⟨argument, sound, -, kept, cut, parts⟩ := safe _ '"' [] third
  have inside : argument = ['æ', '\\'] := by
    rw [← argument.reverse_reverse, ← Option.some.inj sound.current]
    rfl
  subst inside
  refine ⟨third, ⟨kept, cut, parts⟩, splits.trans ?_⟩
  decide +kernel

end WindowedLauncher.CommandLine
