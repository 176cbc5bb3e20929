import WindowedLauncher.Proofs.Decoding
import WindowedLauncher.Proofs.Written

/-!
# Surrogates on a command line

A command line is decoded as a whole, and so the last unit of an argument and
the first one of the next could have become a pair, or a pair could have been
taken apart by a backslash before a double quote.  Neither happens: the pieces
of a command line are those of its program and its arguments, with the syntax
between them (`pieces_ofArguments`).  Quoting and decoding can therefore change
places, and every surrogate that is unpaired on the command line is unpaired in
the argument it comes from (`decode_ofArguments_piecewise`).
-/

namespace WindowedLauncher.CommandLine

open WideString

/-- A part of a wide string that is decoded to one character. -/
inductive Piece where
  | alone (unit : UInt16)
  | pair (high low : UInt16)
deriving DecidableEq

namespace Piece

/-- The units of a piece. -/
def units : Piece → WideString
  | .alone unit => [unit]
  | .pair high low => [high, low]

/-- What a piece is read as. -/
def character : Piece → Char
  | .alone unit => single unit
  | .pair high low => paired high low

/-- Whether a piece is half of a surrogate pair without the other half. -/
def isUnpaired : Piece → Bool
  | .alone unit => isHighSurrogate unit || isLowSurrogate unit
  | .pair _ _ => false

/-- Whether there is a surrogate in a piece. -/
def hasSurrogate : Piece → Bool
  | .alone unit => isHighSurrogate unit || isLowSurrogate unit
  | .pair _ _ => true

instance : Alphabet Piece where
  space := .alone space
  tab := .alone tab
  doubleQuote := .alone doubleQuote
  backslash := .alone backslash
  distinct := by decide

theorem alone_eq_iff (unit symbol : UInt16) :
    Piece.alone unit = .alone symbol ↔ unit = symbol := by
  rw [Piece.alone.injEq]

theorem needsQuoting_alone (unit : UInt16) :
    needsQuoting (Piece.alone unit) = needsQuoting unit := by
  rw [Bool.eq_iff_iff, needsQuoting_iff, needsQuoting_iff]
  exact or_congr (alone_eq_iff unit space)
    (or_congr (alone_eq_iff unit tab) (alone_eq_iff unit doubleQuote))

theorem needsQuoting_pair (high low : UInt16) :
    needsQuoting (Piece.pair high low) = false := by
  rw [Bool.eq_false_iff, ne_eq, needsQuoting_iff]
  rintro (equal | equal | equal) <;> exact Piece.noConfusion equal

theorem keepsSyntax : KeepsSyntax Piece.alone Piece.pair where
  space_eq := rfl
  backslash_eq := rfl
  doubleQuote_iff unit := alone_eq_iff unit doubleQuote
  needsQuoting_alone := needsQuoting_alone
  needsQuoting_pair high low _ _ := needsQuoting_pair high low

theorem character_of_isUnpaired
    {piece : Piece} (unpaired : piece.isUnpaired = true) :
    piece.character = replacement := by
  cases piece with
  | alone unit => exact if_pos unpaired
  | pair high low => exact absurd unpaired Bool.false_ne_true

end Piece

/-- The pieces of a wide string, in order. -/
def pieces (string : WideString) : List Piece :=
  readPieces .alone .pair string

theorem flatMap_units_pieces (string : WideString) :
    (pieces string).flatMap Piece.units = string := by
  rw [pieces]
  induction string using wideString_induction with
  | nil => rfl
  | alone unit rest unpaired ih =>
      rw [readPieces_cons_of_not_opensPair _ _ unpaired, List.flatMap_cons,
        ih]
      rfl
  | pair high low rest isHigh isLow ih =>
      rw [readPieces_pair _ _ isHigh isLow, List.flatMap_cons, ih]
      rfl

theorem decode_eq_map_pieces (string : WideString) :
    decode string = (pieces string).map Piece.character := by
  rw [decode_eq_readPieces, pieces, map_readPieces]
  rfl

/-- The pieces of a line are those of its parts. -/
theorem pieces_ofArguments
    (program : WideString) (arguments : List WideString) :
    pieces (ofArguments program arguments) =
      ofArguments (pieces program) (arguments.map pieces) :=
  Piece.keepsSyntax.readPieces_ofArguments program arguments

/-- The surrogates of a command line are those of its program and arguments. -/
theorem filter_hasSurrogate_pieces_ofArguments
    (program : WideString) (arguments : List WideString) :
    (pieces (ofArguments program arguments)).filter Piece.hasSurrogate =
      (program :: arguments).flatMap fun part =>
        (pieces part).filter Piece.hasSurrogate := by
  have noQuote : Piece.hasSurrogate doubleQuote = false := by decide
  have noBackslash : Piece.hasSurrogate backslash = false := by decide
  have noSpace : Piece.hasSurrogate space = false := by decide
  rw [pieces_ofArguments, ofArguments_eq_quote_append_written,
    List.filter_append, filter_quote noQuote noBackslash,
    filter_written noQuote noBackslash noSpace, List.filter_flatten,
    List.map_map, List.flatMap_cons]
  rfl

/--
Decoding a command line gives the command line of the decoded program and
arguments, each of which is put into quotes exactly if it was before.  The
pieces of the command line are those of the program and the arguments with the
syntax between them, so that it has the same surrogate pairs and the same
unpaired surrogates in the same order.  It is decoded piece by piece, and an
unpaired surrogate as one replacement character.
-/
theorem decode_ofArguments_piecewise
    (program : WideString) (arguments : List WideString) :
    decode (ofArguments program arguments) =
        ofArguments (decode program) (arguments.map decode) ∧
      (∀ part ∈ program :: arguments,
        isWrapped (decode part) = isWrapped part) ∧
      pieces (ofArguments program arguments) =
        ofArguments (pieces program) (arguments.map pieces) ∧
      (pieces (ofArguments program arguments)).filter Piece.hasSurrogate =
        (program :: arguments).flatMap (fun part =>
          (pieces part).filter Piece.hasSurrogate) ∧
      (pieces (ofArguments program arguments)).flatMap Piece.units =
        ofArguments program arguments ∧
      (pieces (ofArguments program arguments)).map Piece.character =
        decode (ofArguments program arguments) ∧
      ∀ piece ∈ pieces (ofArguments program arguments),
        piece.isUnpaired = true → piece.character = '\uFFFD' := by
  refine ⟨decode_ofArguments_eq program arguments, ?_,
    pieces_ofArguments program arguments,
    filter_hasSurrogate_pieces_ofArguments program arguments,
    flatMap_units_pieces _, (decode_eq_map_pieces _).symm, ?_⟩
  · intro part _
    exact isWrapped_decode part
  · intro piece _ unpaired
    exact Piece.character_of_isUnpaired unpaired

/-- The first argument ends in a high surrogate and the second starts with a
low one, the third has both with a space between them, and the fourth is a
pair. -/
theorem decode_ofArguments_piecewise_sample :
    decode (ofArguments (ofString "p")
        [[0xD83D], [0xDE00], [0xD83D, 0x20, 0xDE00], [0xD83D, 0xDE00]]) =
      "p \uFFFD \uFFFD \"\uFFFD \uFFFD\" 😀".toList ∧
    (Piece.alone 0xD83D).character = '\uFFFD' := by
  obtain ⟨commutes, -, -, -, -, -, shown⟩ :=
    decode_ofArguments_piecewise (ofString "p")
      [[0xD83D], [0xDE00], [0xD83D, 0x20, 0xDE00], [0xD83D, 0xDE00]]
  refine ⟨commutes.trans ?_, shown (.alone 0xD83D) ?_ rfl⟩
  · decide
  · decide

end WindowedLauncher.CommandLine
