/-!
# Slices of texts

A slice of a text lies between two places, each given by the number of bytes in
front of it.  There is no slice if one of its ends lies inside a character or
behind the text.  Main statement: `takeBytes?_append`, the first part of a text
is what its bytes take up.
-/

namespace WindowedLauncher.Text

/-- The number of bytes that a text takes up. -/
def size : List Char → Nat
  | [] => 0
  | character :: rest => character.utf8Size + size rest

/-- What is left of a text without its first bytes. -/
def dropBytes? : Nat → List Char → Option (List Char)
  | 0, text => some text
  | _ + 1, [] => none
  | count + 1, character :: rest =>
    if character.utf8Size ≤ count + 1 then
      dropBytes? (count + 1 - character.utf8Size) rest
    else
      none

/-- The first bytes of a text. -/
def takeBytes? : Nat → List Char → Option (List Char)
  | 0, _ => some []
  | _ + 1, [] => none
  | count + 1, character :: rest =>
    if character.utf8Size ≤ count + 1 then
      (takeBytes? (count + 1 - character.utf8Size) rest).map (character :: ·)
    else
      none

/-- What lies between two places of a text. -/
def slice? (text : List Char) (start stop : Nat) : Option (List Char) :=
  (dropBytes? start text).bind (takeBytes? (stop - start))

@[simp]
theorem size_nil : size [] = 0 :=
  rfl

@[simp]
theorem size_cons (character : Char) (text : List Char) :
    size (character :: text) = character.utf8Size + size text :=
  rfl

/-- The bytes of two texts are added up. -/
@[simp]
theorem size_append (first second : List Char) :
    size (first ++ second) = size first + size second := by
  induction first with
  | nil => simp
  | cons character rest ih => simp [ih, Nat.add_assoc]

/-- As many bytes as the first part of a text has are that part. -/
theorem takeBytes?_append (first second : List Char) :
    takeBytes? (size first) (first ++ second) = some first := by
  induction first with
  | nil => simp [takeBytes?]
  | cons character rest ih =>
    have positive := character.utf8Size_pos
    obtain ⟨count, here⟩ : ∃ count, size (character :: rest) = count + 1 :=
      ⟨character.utf8Size + size rest - 1, by simp only [size_cons]; omega⟩
    have fits : character.utf8Size ≤ count + 1 := by rw [← here]; simp
    have left : count + 1 - character.utf8Size = size rest := by
      rw [← here]
      simp
    rw [here, List.cons_append, takeBytes?, if_pos fits, left, ih,
      Option.map_some]

example : slice? ['a', 'æ', 'b'] 1 3 = some ['æ'] := by decide

/-- There is no slice that ends inside a character. -/
example : slice? ['a', 'æ', 'b'] 0 2 = none := by decide

end WindowedLauncher.Text
