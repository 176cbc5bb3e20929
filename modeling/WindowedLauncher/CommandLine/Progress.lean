import WindowedLauncher.CommandLine.Split

/-!
# The progress of the reader

Where the reader of a command line stands between its turns: every place that
it passes, and the place where the text ends.
-/

namespace WindowedLauncher.CommandLine

namespace Reading

/-- The places that the reader passes: a state, with the text that is left to
be read. -/
inductive Visits (start : Reading) (text : List Char) :
    Reading → List Char → Prop where
  | start : Visits start text start text
  | turn
      {reading : Reading}
      {character : Char}
      {rest : List Char}
      (visited : Visits start text reading (character :: rest)) :
      Visits start text
        (reading.turn character rest).state (reading.turn character rest).rest

/-- Where the reader stands when no text is left. -/
def atEnd (reading : Reading) : List Char → Reading
  | [] => reading
  | character :: text =>
    let next := reading.turn character text
    next.state.atEnd next.rest
termination_by text => text.length
decreasing_by
  exact Nat.lt_succ_of_le (length_turn_rest_le reading character text)

end Reading

/-- Whether a line ends outside quotes: those of argument 0 are closed, and
none is counted after it. -/
def endsOutsideQuotes (line : List Char) : Bool :=
  let text := (programAndRest line).2.dropWhile isBlank
  (line.head? ≠ some '"' || line.tail.contains '"') &&
    ((Reading.atArgument text).atEnd text).quotes = 0

end WindowedLauncher.CommandLine
