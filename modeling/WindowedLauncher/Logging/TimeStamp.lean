/-!
# Time stamps

A line of a log may start with the time at which it was written, as in
`2024-05-01T10:00:00.123456Z`.  A process tells its events at moments, counted
from its start; `written` is the time stamp of a moment.
-/

namespace WindowedLauncher.Logging

namespace TimeStamp

/-- The form of a time up to its seconds; a zero stands for any digit. -/
def form : List Char :=
  ['0', '0', '0', '0', '-', '0', '0', '-', '0', '0', 'T',
    '0', '0', ':', '0', '0', ':', '0', '0', '.']

/-- Whether a character takes the place of a sign of the form. -/
def fits (sign character : Char) : Bool :=
  if sign = '0' then character.isDigit else character = sign

/-- What follows the signs of a form, if a text starts with them. -/
def afterForm? : List Char → List Char → Option (List Char)
  | [], text => some text
  | _ :: _, [] => none
  | sign :: signs, character :: text =>
    if fits sign character then afterForm? signs text else none

/-- What follows the time stamp of a line, if it has one: the fraction of a
second ends with a `Z`. -/
def after? (line : List Char) : Option (List Char) :=
  match afterForm? form line with
  | none => none
  | some fraction =>
    match fraction.takeWhile Char.isDigit, fraction.dropWhile Char.isDigit with
    | _ :: _, 'Z' :: rest => some rest
    | _, _ => none

/-- A line without its time stamp and the blanks behind it. -/
def withoutStamp (line : List Char) : List Char :=
  match after? line with
  | none => line
  | some rest => rest.dropWhile Char.isWhitespace

/-- The second in which a process starts. -/
def firstSecond : List Char :=
  ['1', '9', '7', '0', '-', '0', '1', '-', '0', '1', 'T',
    '0', '0', ':', '0', '0', ':', '0', '0', '.']

/-- The time stamp of a moment, which counts as a fraction of a second. -/
def written (moment : Nat) : List Char :=
  firstSecond ++ (Nat.toDigits 10 moment).leftpad 6 '0' ++ ['Z']

/-- A time stamp stands on one line. -/
theorem lineFeed_not_mem_written (moment : Nat) : '\n' ∉ written moment := by
  have digits : '\n' ∉ Nat.toDigits 10 moment := by
    intro member
    have digit := Nat.isDigit_of_mem_toDigits (by decide) (by decide) member
    exact absurd digit (by decide)
  simp [written, firstSecond, List.leftpad, digits]

example : withoutStamp "2024-05-01T10:00:00.123456Z  INFO x".toList =
    "INFO x".toList := by
  decide +kernel

example : withoutStamp "2020 earlier".toList = "2020 earlier".toList := by
  decide +kernel

end TimeStamp

end WindowedLauncher.Logging
