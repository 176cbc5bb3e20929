import WindowedLauncher.Text.Classes

/-!
# Switches of a pattern

Letters in a group of a pattern switch a way of reading on or off for what
follows.  Three of them bear on whether a pattern is well formed: `i` lets
letters match in either case, `u` lets the pattern speak of characters and not
of bytes, and `x` lets blanks and comments stand between its parts.
-/

namespace WindowedLauncher.Text.Pattern

/-- How a pattern is read at a place. -/
structure Switches where
  ignoresCase : Bool := false
  characters : Bool := true
  spaced : Bool := false
deriving DecidableEq, Repr

namespace Switches

/-- The letters of all switches. -/
def letters : List Char :=
  ['i', 'm', 's', 'R', 'U', 'u', 'x']

/-- Turns the switch of a letter on or off, if it is one of the three. -/
def turn (on : Bool) (switches : Switches) (letter : Char) : Switches :=
  if letter = 'i' then { switches with ignoresCase := on }
  else if letter = 'u' then { switches with characters := on }
  else if letter = 'x' then { switches with spaced := on }
  else switches

/-- Whether a text gives the letters of switches, those to turn off after a
minus sign.  No sign is given twice, and the minus sign is not the last one. -/
def areGivenBy (text : List Char) : Bool :=
  text.all (fun sign => sign = '-' || letters.contains sign) &&
    text.eraseDups.length = text.length && text.getLast? ≠ some '-'

/-- The switches after those that a text gives, if it gives any. -/
def turned? (switches : Switches) (text : List Char) : Option Switches :=
  if areGivenBy text then
    some <| (text.dropWhile (· ≠ '-')).foldl (turn false)
      ((text.takeWhile (· ≠ '-')).foldl (turn true) switches)
  else
    none

/-- What follows blanks and comments.  A comment goes from its sign to the end
of the line. -/
def dropBlanks (inComment : Bool) : List Char → List Char
  | [] => []
  | character :: rest =>
    if inComment then dropBlanks (character ≠ '\n') rest
    else if isSpace character then dropBlanks false rest
    else if character = '#' then dropBlanks true rest
    else character :: rest

/-- What follows whatever has no meaning between two parts. -/
def skip (switches : Switches) (text : List Char) : List Char :=
  if switches.spaced then dropBlanks false text else text

/-- The next sign in sight, past blanks and the sign of a comment, but not past
the comment. -/
def inSight? (switches : Switches) (text : List Char) : Option Char :=
  if switches.spaced then
    match text.dropWhile isSpace with
    | '#' :: rest => (rest.dropWhile isSpace).head?
    | rest => rest.head?
  else
    text.head?

example : turned? {} ['i', '-', 'u'] =
    some { ignoresCase := true, characters := false } := by
  decide

example : turned? {} ['i', '-', 'i'] = none ∧ turned? {} ['i', '-'] = none := by
  decide

end Switches

end WindowedLauncher.Text.Pattern
