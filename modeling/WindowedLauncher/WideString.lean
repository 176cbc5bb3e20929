/-!
# Wide strings

A wide string is a list of UTF-16 code units, and any list will do: a file name
or an argument may hold half of a surrogate pair.  `decode` reads such a list
as characters, putting the replacement character in the place of every unpaired
surrogate, and `encode` writes characters as units.  Main statement:
`decode_encode`, a text comes back from its units unchanged.

The last part holds the two ways in which a NUL unit ends a string: a reader
sees what comes before it (`untilNul`), and a string that is handed over with a
terminator may hold one only as its very last unit (`terminated`).
-/

namespace WindowedLauncher

/-- A string of UTF-16 code units, unpaired surrogates included. -/
abbrev WideString := List UInt16

namespace WideString

/-- Whether a unit is the first half of a surrogate pair. -/
def isHighSurrogate (unit : UInt16) : Bool :=
  0xD800 ≤ unit && unit < 0xDC00

/-- Whether a unit is the second half of a surrogate pair. -/
def isLowSurrogate (unit : UInt16) : Bool :=
  0xDC00 ≤ unit && unit < 0xE000

/-- The character shown in the place of an unpaired surrogate. -/
def replacement : Char := '\uFFFD'

/-- The character of a unit that is not part of a pair. -/
def single (unit : UInt16) : Char :=
  if isHighSurrogate unit || isLowSurrogate unit then replacement
  else Char.ofNat unit.toNat

/-- The character beyond the first 65536 that a surrogate pair stands for. -/
def paired (high low : UInt16) : Char :=
  Char.ofNat (0x10000 + (high.toNat - 0xD800) * 0x400 + (low.toNat - 0xDC00))

/-- The characters of a wide string, each unpaired surrogate as one replacement
character. -/
def decode : WideString → List Char
  | [] => []
  | [unit] => [single unit]
  | unit :: next :: rest =>
    if isHighSurrogate unit && isLowSurrogate next then
      paired unit next :: decode rest
    else
      single unit :: decode (next :: rest)

/-- The units of one character: itself, or a surrogate pair beyond the first
65536. -/
def encodeChar (character : Char) : WideString :=
  if character.toNat < 0x10000 then
    [character.toNat.toUInt16]
  else
    [(0xD800 + (character.toNat - 0x10000) / 0x400).toUInt16,
     (0xDC00 + (character.toNat - 0x10000) % 0x400).toUInt16]

/-- The units of a text. -/
def encode (text : List Char) : WideString :=
  text.flatMap encodeChar

/-- The units of a string. -/
def ofString (text : String) : WideString :=
  encode text.toList

/-- The string that a reader is shown: unpaired surrogates appear as
replacement characters. -/
def display (string : WideString) : String :=
  String.ofList string.decode

/-- The text that a wide string spells, if all of its surrogates are paired. -/
def text? (string : WideString) : Option (List Char) :=
  if encode string.decode = string then some string.decode else none

/-- What a reader sees that stops at the first NUL. -/
def untilNul (string : WideString) : WideString :=
  string.takeWhile (· != 0)

/-- The content of a string that is handed over with a terminating NUL.  A NUL
of its own may only be its last unit, where it serves as the terminator; any
other is refused with the position of the first. -/
def terminated (string : WideString) : Except Nat WideString :=
  match string.findIdx? (· == 0) with
  | none => .ok string
  | some position =>
    if position + 1 = string.length then .ok (string.take position)
    else .error position

/-! ### What decoding does to the units of one character -/

@[simp]
theorem decode_nil : decode [] = [] :=
  rfl

/-- A unit that opens no pair is read by itself. -/
theorem decode_cons_of_not_high
    (unit : UInt16)
    (rest : WideString)
    (notHigh : isHighSurrogate unit = false) :
    decode (unit :: rest) = single unit :: decode rest := by
  cases rest with
  | nil => rfl
  | cons next tail => simp [decode, notHigh]

/-- A pair is read as one character. -/
theorem decode_pair
    (high low : UInt16)
    (rest : WideString)
    (isHigh : isHighSurrogate high = true)
    (isLow : isLowSurrogate low = true) :
    decode (high :: low :: rest) = paired high low :: decode rest := by
  simp [decode, isHigh, isLow]

/-- No character is half of a surrogate pair. -/
theorem toNat_not_surrogate (character : Char) :
    character.toNat < 0xD800 ∨
      0xE000 ≤ character.toNat ∧ character.toNat < 0x110000 := by
  have valid : character.toNat < 0xD800 ∨
      0xDFFF < character.toNat ∧ character.toNat < 0x110000 := character.valid
  omega

/-- The range of the first halves, in numbers. -/
theorem isHighSurrogate_iff (unit : UInt16) :
    isHighSurrogate unit = true ↔
      0xD800 ≤ unit.toNat ∧ unit.toNat < 0xDC00 := by
  simp [isHighSurrogate, UInt16.le_iff_toNat_le, UInt16.lt_iff_toNat_lt]

/-- The range of the second halves, in numbers. -/
theorem isLowSurrogate_iff (unit : UInt16) :
    isLowSurrogate unit = true ↔ 0xDC00 ≤ unit.toNat ∧ unit.toNat < 0xE000 := by
  simp [isLowSurrogate, UInt16.le_iff_toNat_le, UInt16.lt_iff_toNat_lt]

/-- The units of a character are decoded to that character, whatever follows
them. -/
theorem decode_encodeChar_append (character : Char) (rest : WideString) :
    decode (encodeChar character ++ rest) = character :: decode rest := by
  have range := toNat_not_surrogate character
  unfold encodeChar
  split
  next small =>
    have unitNat : character.toNat.toUInt16.toNat = character.toNat := by
      simp only [Nat.toUInt16, UInt16.toNat_ofNat']
      omega
    have notHigh : isHighSurrogate character.toNat.toUInt16 = false := by
      rw [Bool.eq_false_iff, ne_eq, isHighSurrogate_iff, unitNat]
      omega
    have notLow : isLowSurrogate character.toNat.toUInt16 = false := by
      rw [Bool.eq_false_iff, ne_eq, isLowSurrogate_iff, unitNat]
      omega
    rw [List.singleton_append, decode_cons_of_not_high _ _ notHigh]
    simp only [single, notHigh, notLow, Bool.or_self, Bool.false_eq_true,
      if_false, unitNat, Char.ofNat_toNat]
  next large =>
    have highNat :
        ((0xD800 + (character.toNat - 0x10000) / 0x400).toUInt16).toNat =
        0xD800 + (character.toNat - 0x10000) / 0x400 := by
      simp only [Nat.toUInt16, UInt16.toNat_ofNat']
      omega
    have lowNat :
        ((0xDC00 + (character.toNat - 0x10000) % 0x400).toUInt16).toNat =
        0xDC00 + (character.toNat - 0x10000) % 0x400 := by
      simp only [Nat.toUInt16, UInt16.toNat_ofNat']
      omega
    rw [List.cons_append, List.singleton_append, decode_pair]
    · have same :
          0x10000 +
              (0xD800 + (character.toNat - 0x10000) / 0x400 - 0xD800) * 0x400 +
            (0xDC00 + (character.toNat - 0x10000) % 0x400 - 0xDC00) =
          character.toNat := by
        omega
      rw [paired, highNat, lowNat, same, Char.ofNat_toNat]
    · rw [isHighSurrogate_iff, highNat]
      omega
    · rw [isLowSurrogate_iff, lowNat]
      omega

@[simp]
theorem encode_nil : encode [] = [] :=
  rfl

@[simp]
theorem encode_cons (character : Char) (text : List Char) :
    encode (character :: text) = encodeChar character ++ encode text :=
  rfl

/-- A text comes back from its units. -/
@[simp]
theorem decode_encode (text : List Char) : decode (encode text) = text := by
  induction text with
  | nil => rfl
  | cons character rest ih => rw [encode_cons, decode_encodeChar_append, ih]

/-- A wide string spells a text exactly if it is made of that text's units. -/
theorem text?_eq_some_iff (string : WideString) (text : List Char) :
    string.text? = some text ↔ string = encode text := by
  constructor
  · intro spelled
    unfold text? at spelled
    split at spelled
    next same =>
      rw [← Option.some.inj spelled, same]
    next => exact absurd spelled (by simp)
  · rintro rfl
    simp [text?]

end WideString

end WindowedLauncher
