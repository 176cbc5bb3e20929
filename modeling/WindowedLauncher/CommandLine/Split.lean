import WindowedLauncher.CommandLine.Alphabet

/-!
# Splitting a command line

`split` reads a command line the way a program started with it does.  Argument
0 ends at the next double quote if it starts with one, and at the next blank
otherwise.  Everything after it is read by a machine that takes turns: a turn
handles one character, together with the blanks or double quotes that follow
it, and leaves a shorter text for the next one.

A double quote right after backslashes halves them: after an even number it is
counted, after an odd number it is itself part of the argument.  Every further
double quote of the same run is counted, and the third counted one is part of
the argument and starts the count again.  Blanks end an argument only while the
count is zero.
-/

namespace WindowedLauncher.CommandLine

/-- Where the reader stands between two turns. -/
structure Reading where
  /-- The argument being read, newest character first; absent if no text was
  left to open one. -/
  current : Option (List Char)
  /-- How many backslashes stand right before this point. -/
  backslashes : Nat
  /-- How many double quotes have been counted since the count was last started
  again. -/
  quotes : Nat
deriving DecidableEq, Repr

namespace Reading

/-- The start of an argument, which is opened only if text is left. -/
def atArgument (text : List Char) : Reading where
  current := if text.isEmpty then none else some []
  backslashes := 0
  quotes := 0

/-- What has been read of the argument, newest character first. -/
def newest (reading : Reading) : List Char :=
  reading.current.getD []

/-- The argument that is being read, if one is open, in order. -/
def argument? (reading : Reading) : Option (List Char) :=
  reading.current.map List.reverse

/-- Takes a backslash: it is part of the argument for now, and counted. -/
def takeBackslash (reading : Reading) : Reading :=
  { reading with
    current := some ('\\' :: reading.newest)
    backslashes := reading.backslashes + 1 }

/-- Takes a character that has no meaning of its own. -/
def takeOrdinary (reading : Reading) (character : Char) : Reading :=
  { reading with
    current := some (character :: reading.newest)
    backslashes := 0 }

/-- Takes the first double quote of a run.  Of the backslashes before it half
are kept; an odd one makes the double quote part of the argument, otherwise it
is counted. -/
def openRun (reading : Reading) : Reading :=
  if reading.backslashes % 2 = 0 then
    { current := some (reading.newest.drop (reading.backslashes / 2))
      backslashes := 0
      quotes := reading.quotes + 1 }
  else
    { current := some ('"' :: reading.newest.drop (reading.backslashes / 2 + 1))
      backslashes := 0
      quotes := reading.quotes }

/-- Takes a further double quote of a run: the third counted one is part of the
argument. -/
def continueRun (reading : Reading) : Reading :=
  if reading.quotes + 1 = 3 then
    { reading with
      current := some ('"' :: reading.newest)
      quotes := 0 }
  else
    { reading with quotes := reading.quotes + 1 }

/-- Ends a run of double quotes: two counted ones have opened and closed a
stretch. -/
def closeRun (reading : Reading) : Reading :=
  if reading.quotes = 2 then { reading with quotes := 0 } else reading

/-- Takes a whole run of double quotes: one and then each of `further`. -/
def takeRun (reading : Reading) (further : List Char) : Reading :=
  (further.foldl (fun state _ => state.continueRun) reading.openRun).closeRun

/-- What a turn leaves: the argument that it ended, the new state and the text
still to be read. -/
structure Turn where
  finished : Option (List Char)
  state : Reading
  rest : List Char
deriving DecidableEq, Repr

/-- One turn of the reader, at the given character and the text after it. -/
def turn (reading : Reading) (character : Char) (text : List Char) : Turn :=
  if isBlank character && reading.quotes = 0 then
    let rest := text.dropWhile isBlank
    { finished := reading.argument?, state := atArgument rest, rest := rest }
  else if character = '\\' then
    { finished := none, state := reading.takeBackslash, rest := text }
  else if character = '"' then
    { finished := none
      state := reading.takeRun (text.takeWhile (· = '"'))
      rest := text.dropWhile (· = '"') }
  else
    { finished := none, state := reading.takeOrdinary character, rest := text }

theorem length_dropWhile_le (keep : Char → Bool) (text : List Char) :
    (text.dropWhile keep).length ≤ text.length :=
  (List.dropWhile_sublist keep).length_le

/-- A turn leaves no more text than there is after its character. -/
theorem length_turn_rest_le
    (reading : Reading) (character : Char) (text : List Char) :
    (reading.turn character text).rest.length ≤ text.length := by
  unfold turn
  split
  · exact length_dropWhile_le _ _
  · split
    · exact Nat.le_refl _
    · split
      · exact length_dropWhile_le _ _
      · exact Nat.le_refl _

/-- The arguments of a text, turn by turn, the one being read first. -/
def arguments (reading : Reading) : List Char → List (List Char)
  | [] => reading.argument?.toList
  | character :: text =>
    let next := reading.turn character text
    next.finished.toList ++ next.state.arguments next.rest
termination_by text => text.length
decreasing_by
  exact Nat.lt_succ_of_le (length_turn_rest_le reading character text)

end Reading

/-- Argument 0 of a command line, and the text after it. -/
def programAndRest : List Char → List Char × List Char
  | '"' :: text => (text.takeWhile (· ≠ '"'), (text.dropWhile (· ≠ '"')).tail)
  | text => (text.takeWhile (!isBlank ·), text.dropWhile (!isBlank ·))

/-- The arguments of a command line, argument 0 first. -/
def split (line : List Char) : List (List Char) :=
  let (program, text) := programAndRest line
  let rest := text.dropWhile isBlank
  program :: (Reading.atArgument rest).arguments rest

/-- Every command line has an argument 0. -/
theorem split_ne_nil (line : List Char) : split line ≠ [] := by
  simp [split]

end WindowedLauncher.CommandLine
