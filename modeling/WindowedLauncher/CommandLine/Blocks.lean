import WindowedLauncher.CommandLine.Alphabet

/-!
# Reading a command line in blocks

A second account of how a command line is read, by run lengths instead of
turns.  A block is a run of backslashes followed by a run of double quotes;
what it adds to the argument, and whether it leaves the reader inside quotes,
is arithmetic on the two lengths.
-/

namespace WindowedLauncher.CommandLine

/-- What a block leaves of the state of the reader: inside quotes or not. -/
def quotedAfter (quoted : Nat) (backslashes doubleQuotes : Nat) : Nat :=
  if (quoted + doubleQuotes - backslashes % 2) % 3 = 1 then 1 else 0

/-- What a block adds to an argument: half of its backslashes, and double
quotes for those that are escaped or left over. -/
def blockText (quoted : Nat) (backslashes doubleQuotes : Nat) : List Char :=
  List.replicate (backslashes / 2) '\\' ++
    List.replicate
      (backslashes % 2 + (quoted + doubleQuotes - backslashes % 2) / 3) '"'

/-- How many times a character stands at the start of a text. -/
def runLength (character : Char) (text : List Char) : Nat :=
  (text.takeWhile (· = character)).length

/-- The arguments of a text, given what has been read of the first of them. -/
def readBlocks (quoted : Nat) (argument : List Char) :
    List Char → List (List Char)
  | [] => [argument]
  | character :: rest =>
    let backslashes := runLength '\\' (character :: rest)
    let behind := (character :: rest).drop backslashes
    let doubleQuotes := runLength '"' behind
    if 0 < doubleQuotes then
      readBlocks (quotedAfter quoted backslashes doubleQuotes)
        (argument ++ blockText quoted backslashes doubleQuotes)
        (behind.drop doubleQuotes)
    else if isBlank character && quoted = 0 then
      let next := rest.dropWhile isBlank
      if next = [] then [argument] else argument :: readBlocks 0 [] next
    else
      readBlocks quoted (argument ++ [character]) rest
termination_by text => text.length
decreasing_by
  · have counted : 0 < runLength '"'
        ((character :: rest).drop (runLength '\\' (character :: rest))) := by
      assumption
    simp only [List.length_drop, List.length_cons]
    omega
  · exact Nat.lt_succ_of_le (List.dropWhile_sublist isBlank).length_le
  · exact Nat.lt_succ_self _

/-- The arguments after argument 0, from the text that follows it. -/
def argumentsInBlocks (text : List Char) : List (List Char) :=
  let start := text.dropWhile isBlank
  if start = [] then [] else readBlocks 0 [] start

/-- The arguments of a command line, read in blocks. -/
def splitInBlocks (line : List Char) : List (List Char) :=
  match line with
  | '"' :: text =>
    text.takeWhile (· ≠ '"') ::
      argumentsInBlocks ((text.dropWhile (· ≠ '"')).drop 1)
  | _ =>
    line.takeWhile (!isBlank ·) ::
      argumentsInBlocks (line.dropWhile (!isBlank ·))

end WindowedLauncher.CommandLine
