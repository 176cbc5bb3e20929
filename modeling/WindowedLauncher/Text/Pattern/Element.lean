import WindowedLauncher.Text.Pattern.Switches

/-!
# Elements of a pattern

The smallest parts of a pattern: characters, the shorthands for digits, blanks
and word characters, and the edges of lines, texts and words.  Patterns work
without tables of characters.  So where a pattern speaks of characters it can
neither ignore case nor use a shorthand or the edge of a word; and where it
speaks of bytes it cannot take in a byte beyond ASCII, since it would match a
part of a character.
-/

namespace WindowedLauncher.Text.Pattern

/-- A smallest part of a pattern. -/
inductive Element where
  /-- A character, which a two-digit number gives as a byte. -/
  | character (value : Char) (isByte : Bool)
  /-- The digits, the blanks or the word characters, or all others. -/
  | shorthand (negated : Bool)
  /-- The start or the end of a line or a text. -/
  | edge
  /-- A start or end of a word, or a place that is none. -/
  | wordEdge
deriving DecidableEq, Repr

namespace Element

/-- Whether a character takes up more than one byte. -/
def isWide (character : Char) : Bool :=
  0x80 ≤ character.toNat

/-- Whether an element can be read with the given switches. -/
def isSupported (switches : Switches) : Element → Bool
  | .character value isByte =>
    if switches.characters then !switches.ignoresCase
    else !(isByte && isWide value)
  | .shorthand negated => !switches.characters && !negated
  | .edge => true
  | .wordEdge => !switches.characters

/-- Whether an element can stand in a set of characters. -/
def isMember (switches : Switches) : Element → Bool
  | .character value _ =>
    if switches.characters then !switches.ignoresCase else !isWide value
  | .shorthand negated => !switches.characters && !negated
  | .edge => false
  | .wordEdge => false

/-- The value of a hexadecimal digit. -/
def digit? (sign : Char) : Option Nat :=
  if sign.isDigit then some (sign.toNat - '0'.toNat)
  else if 'a' ≤ sign ∧ sign ≤ 'f' then some (sign.toNat - 'a'.toNat + 10)
  else if 'A' ≤ sign ∧ sign ≤ 'F' then some (sign.toNat - 'A'.toNat + 10)
  else none

/-- Reads so many hexadecimal digits, which add to a value. -/
def digits? (switches : Switches) (value : Nat) :
    Nat → List Char → Option (Nat × List Char)
  | 0, text => some (value, text)
  | count + 1, text =>
    match switches.skip text with
    | [] => none
    | sign :: rest =>
      (digit? sign).bind fun digit =>
        digits? switches (value * 16 + digit) count rest

/-- Reads a character that is given by a number of so many digits. -/
def numbered? (switches : Switches) (count : Nat) (text : List Char) :
    Option (Element × List Char) := do
  let (value, rest) ← digits? switches 0 count text
  if value.isValidChar then
    return (.character (Char.ofNat value) (count = 2), rest)
  else
    none

/-- The letters that stand for control characters behind a backslash. -/
def controls : List (Char × Char) :=
  [('a', '\x07'), ('f', '\x0c'), ('n', '\n'), ('r', '\r'), ('t', '\t'),
    ('v', '\x0b')]

/-- Whether a character stands for itself behind a backslash. -/
def isPlainEscaped (sign : Char) : Bool :=
  !isWide sign && !sign.isAlphanum && sign ≠ '<' && sign ≠ '>'

/-- Reads an element behind its backslash. -/
def escaped? (switches : Switches) : List Char → Option (Element × List Char)
  | [] => none
  | sign :: rest =>
    match sign with
    | 'x' => numbered? switches 2 rest
    | 'u' => numbered? switches 4 rest
    | 'U' => numbered? switches 8 rest
    | 'd' | 's' | 'w' => some (.shorthand false, rest)
    | 'D' | 'S' | 'W' => some (.shorthand true, rest)
    | 'A' | 'z' => some (.edge, rest)
    | 'b' | 'B' | '<' | '>' => some (.wordEdge, rest)
    | _ =>
      match controls.lookup sign with
      | some control => some (.character control false, rest)
      | none =>
        if isPlainEscaped sign then some (.character sign false, rest)
        else none

/-- Reads an element, and gives what follows. -/
def read? (switches : Switches) : List Char → Option (Element × List Char)
  | [] => none
  | '\\' :: rest => escaped? switches rest
  | sign :: rest => some (.character sign false, rest)

end Element

end WindowedLauncher.Text.Pattern
