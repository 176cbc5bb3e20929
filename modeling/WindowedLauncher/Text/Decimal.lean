/-!
# Decimal numbers

A number is written with decimal digits, with a point or without, with an
exponent or without, and with a sign or without.  Infinity and what is not a
number have names of their own.
-/

namespace WindowedLauncher.Text

/-- A text without the sign in front of it. -/
def dropSign (text : List Char) : List Char :=
  match text with
  | '+' :: rest => rest
  | '-' :: rest => rest
  | _ => text

/-- Whether a text consists of at least one decimal digit. -/
def isDigits (text : List Char) : Bool :=
  !text.isEmpty && text.all Char.isDigit

/-- Whether a text can stand behind the digits of a number: nothing, or an
exponent. -/
def isExponent : List Char → Bool
  | [] => true
  | letter :: rest => letter.toLower = 'e' && isDigits (dropSign rest)

/-- Whether a text is a number without a sign: digits on one side of a point at
least, and perhaps an exponent. -/
def isMagnitude (text : List Char) : Bool :=
  let whole := text.takeWhile Char.isDigit
  match text.dropWhile Char.isDigit with
  | '.' :: rest =>
    !(whole.isEmpty && (rest.takeWhile Char.isDigit).isEmpty) &&
      isExponent (rest.dropWhile Char.isDigit)
  | rest => !whole.isEmpty && isExponent rest

/-- The names of the numbers that no digits can write. -/
def numberNames : List String :=
  ["inf", "infinity", "nan"]

/-- Whether a text is a number. -/
def isDecimal (text : List Char) : Bool :=
  let unsigned := dropSign text
  isMagnitude unsigned ||
    numberNames.contains (String.ofList (unsigned.map Char.toLower))

example : isDecimal "+1.5e-3".toList = true ∧ isDecimal "-.5".toList = true ∧
    isDecimal "+NaN".toList = true := by
  decide +kernel

example : isDecimal "+".toList = false ∧ isDecimal ".".toList = false ∧
    isDecimal "1e".toList = false := by
  decide +kernel

end WindowedLauncher.Text
