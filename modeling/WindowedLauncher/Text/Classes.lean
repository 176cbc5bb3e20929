import WindowedLauncher.Text.Alphabetic
import WindowedLauncher.Text.Numeric

/-!
# Classes of characters

Two classes that reach over all scripts: the letters and digits, and the
blanks.
-/

namespace WindowedLauncher.Text

/-- Whether a character is a letter or a digit of any script. -/
def isAlphanumeric (character : Char) : Bool :=
  isAlphabetic character || isNumeric character

example : isAlphanumeric 'æ' = true ∧ isAlphanumeric '語' = true ∧
    isAlphanumeric '٣' = true := by
  decide +kernel

example : isAlphanumeric '…' = false ∧ isAlphanumeric '×' = false ∧
    isAlphanumeric '=' = false := by
  decide +kernel

/-- The blanks of all scripts. -/
def isSpace (character : Char) : Bool :=
  let point := character.toNat
  (0x09 ≤ point && point ≤ 0x0D) || point == 0x20 || point == 0x85 ||
    point == 0xA0 || point == 0x1680 ||
    (0x2000 ≤ point && point ≤ 0x200A) || point == 0x2028 ||
    point == 0x2029 || point == 0x202F || point == 0x205F || point == 0x3000

/-- A text without the blanks around it. -/
def trim (text : List Char) : List Char :=
  ((text.dropWhile isSpace).reverse.dropWhile isSpace).reverse

end WindowedLauncher.Text
