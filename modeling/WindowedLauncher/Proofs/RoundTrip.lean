import WindowedLauncher.Proofs.Decline
import WindowedLauncher.Proofs.Decoding

/-!
# The round trip of a command line

A command line that was written by a launcher is read back exactly if and only
if no double quote stands in the program and all arguments are faithful.  The
condition is about units, and the reading is of characters; decoding turns one
into the other.

An argument that is not faithful damages only what is written from it on
(`split_decode_ofArguments_append`): the faithful ones before it are read as
they are, and have no part in how it is read.
-/

namespace WindowedLauncher.CommandLine

open WideString

/-- A line is read back as it was written if the program holds no quote and the
arguments are faithful. -/
theorem split_ofArguments_eq_iff
    (program : List Char) (arguments : List (List Char)) :
    split (ofArguments program arguments) = program :: arguments ↔
      doubleQuote ∉ program ∧
        ∀ argument ∈ arguments, IsFaithful argument := by
  by_cases quoted : doubleQuote ∈ program
  · constructor
    · intro same
      rw [split_eq_scan] at same
      exact absurd (List.cons.inj same).1
        (programAndRest_ofArguments_ne quoted arguments)
    · intro conditions
      exact absurd quoted conditions.1
  · rw [split_ofArguments quoted, List.cons_eq_cons,
      delivered_eq_iff]
    constructor
    · intro same
      exact ⟨quoted, same.2⟩
    · intro conditions
      exact ⟨rfl, conditions.2⟩

-- Two backslashes close the quotes early, and the double quote that was to
-- close them is the third of its run.
example : split (ofArguments ['p'] [['\\', '"'], ['q']]) =
    [['p'], ['\\', '"'], ['q']] := by
  rw [split_ofArguments_eq_iff]
  decide

theorem forall_isFaithful_decode (arguments : List WideString) :
    (∀ argument ∈ arguments.map decode, IsFaithful argument) ↔
      ∀ argument ∈ arguments, IsFaithful argument := by
  rw [List.forall_mem_map]
  constructor
  · intro faithful argument member
    exact (isFaithful_decode argument).mp (faithful argument member)
  · intro faithful argument member
    exact (isFaithful_decode argument).mpr (faithful argument member)

/--
Program and arguments come back from the command line that was written for
them exactly if the program holds no double quote and every argument is
faithful.
-/
theorem split_decode_ofArguments_eq_iff
    (program : WideString) (arguments : List WideString) :
    split (decode (ofArguments program arguments)) =
        decode program :: arguments.map decode ↔
      doubleQuote ∉ program ∧
        ∀ argument ∈ arguments, IsFaithful argument := by
  rw [decode_ofArguments_eq, split_ofArguments_eq_iff,
    doubleQuote_mem_decode_iff, forall_isFaithful_decode]

/-! ## What stands before an unfaithful argument -/

/-- Faithful arguments are read back, and what follows them is read as if it
stood alone. -/
theorem split_ofArguments_append
    {program : List Char} (noQuote : doubleQuote ∉ program)
    {good : List (List Char)}
    (faithful : ∀ argument ∈ good, IsFaithful argument)
    (rest : List (List Char)) :
    split (ofArguments program (good ++ rest)) =
      [program] ++ good ++ (split (ofArguments program rest)).tail := by
  rw [split_ofArguments noQuote, split_ofArguments noQuote,
    delivered_append faithful, List.tail_cons]
  rfl

/--
Faithful arguments are read as they are, and whatever is written behind them
is read as if it stood on a command line of its own.
-/
theorem split_decode_ofArguments_append
    (program : WideString) (good rest : List WideString)
    (noQuote : doubleQuote ∉ program)
    (faithful : ∀ argument ∈ good, IsFaithful argument) :
    split (decode (ofArguments program (good ++ rest))) =
      [decode program] ++ good.map decode ++
        (split (decode (ofArguments program rest))).tail := by
  rw [decode_ofArguments_eq, decode_ofArguments_eq, List.map_append]
  apply split_ofArguments_append
  · rw [doubleQuote_mem_decode_iff]
    exact noQuote
  · rw [forall_isFaithful_decode]
    exact faithful

/-- One ends in a backslash without quotes, one is empty, and one ends in a
double quote behind a backslash. -/
def sampleFaithful : List WideString :=
  [ofString "C:\\tools\\", [], ofString "a b\\\""]

/-- The last backslash of the first takes the meaning from its closing quote. -/
def sampleDamaged : List WideString :=
  [ofString "C:\\my dir\\", ofString "next", [0xD800]]

/-- Arguments that are damaged do no harm to those before them. -/
theorem split_decode_ofArguments_append_sample :
    doubleQuote ∉ ofString ".\\nortools.exe" ∧
      (∀ argument ∈ sampleFaithful, IsFaithful argument) ∧
      split (decode (ofArguments (ofString ".\\nortools.exe")
          (sampleFaithful ++ sampleDamaged))) =
        [decode (ofString ".\\nortools.exe")] ++
          sampleFaithful.map decode ++
            (split (decode (ofArguments (ofString ".\\nortools.exe")
              sampleDamaged))).tail := by
  have noQuote : doubleQuote ∉ ofString ".\\nortools.exe" := by
    decide
  have faithful : ∀ argument ∈ sampleFaithful, IsFaithful argument := by
    decide
  exact ⟨noQuote, faithful,
    split_decode_ofArguments_append _ _ _ noQuote faithful⟩

end WindowedLauncher.CommandLine
