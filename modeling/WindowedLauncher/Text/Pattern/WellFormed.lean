import WindowedLauncher.Text.Pattern.Bracketed

/-!
# Well-formed patterns

A pattern describes texts by characters and sets of characters, one after the
other, with alternatives, repetitions and groups.  `isWellFormed` reads a
pattern from left to right.  What it keeps is the depth of the parts read, for
each group that is open; a pattern whose parts are nested too deeply is
refused.

A pattern stands where a closing brace would end it.  So a repetition by
number, which ends with one, cannot be completed, and its opening brace makes a
pattern ill formed.
-/

namespace WindowedLauncher.Text.Pattern

/-- How deeply the parts of a pattern may be nested. -/
def depthLimit : Nat := 250

/-- A part of a pattern that has been read. -/
structure Part where
  depth : Nat
  /-- Whether the part can be repeated: it is more than a turn of switches. -/
  repeatable : Bool := true
deriving DecidableEq, Repr

/-- A group whose end has not been read, or the pattern as a whole. -/
structure OpenGroup where
  /-- The parts of the alternative that is being read, the last one first. -/
  parts : List Part := []
  alternatives : List Nat := []
  outer : Switches := {}
deriving DecidableEq, Repr

namespace OpenGroup

/-- The depth of the alternative that is being read. -/
def lastDepth (group : OpenGroup) : Nat :=
  joined (group.parts.map (·.depth))

def depth (group : OpenGroup) : Nat :=
  joined (group.lastDepth :: group.alternatives)

end OpenGroup

/-- How far a pattern has been read. -/
structure Progress where
  switches : Switches := {}
  group : OpenGroup := {}
  /-- The groups around the innermost one, the nearest first. -/
  around : List OpenGroup := []
  names : List (List Char) := []
deriving DecidableEq, Repr

namespace Progress

/-- One more part has been read. -/
def add (progress : Progress) (part : Part) : Progress :=
  { progress with
    group := { progress.group with parts := part :: progress.group.parts } }

/-- One more element has been read, if it is supported. -/
def addElement? (progress : Progress) (element : Element) : Option Progress :=
  if element.isSupported progress.switches then
    some (progress.add { depth := 0 })
  else
    none

/-- The alternative that is being read ends, and another one begins. -/
def branch (progress : Progress) : Progress :=
  { progress with
    group := { progress.group with
      parts := []
      alternatives :=
        progress.group.lastDepth :: progress.group.alternatives } }

/-- The last part is repeated, if it can be. -/
def repeat? (progress : Progress) : Option Progress :=
  match progress.group.parts with
  | ⟨depth, true⟩ :: parts =>
    some { progress with
      group := { progress.group with parts := ⟨depth + 1, true⟩ :: parts } }
  | _ => none

/-- Opens a group in which the given switches are in force. -/
def enter (progress : Progress) (switches : Switches) : Progress :=
  { progress with
    switches
    group := { outer := progress.switches }
    around := progress.group :: progress.around }

/-- Closes the innermost group, if there is one to close. -/
def leave? (progress : Progress) : Option Progress :=
  match progress.around with
  | [] => none
  | outer :: further =>
    let closed : Progress :=
      { progress with
        switches := progress.group.outer, group := outer, around := further }
    some (closed.add { depth := progress.group.depth + 1 })

/-- Whether a text can name a group. -/
def isName : List Char → Bool
  | [] => false
  | first :: rest =>
    (first = '_' || isAlphabetic first) &&
      rest.all fun sign =>
        ['_', '.', '[', ']'].contains sign || isAlphanumeric sign

/-- Opens a group that has a name, behind the sign that opens the name. -/
def enterNamed? (progress : Progress) (text : List Char) :
    Option (Progress × List Char) :=
  let name := text.takeWhile (· ≠ '>')
  match text.dropWhile (· ≠ '>') with
  | [] => none
  | _ :: rest =>
    if isName name && !progress.names.contains name then
      let named := { progress with names := name :: progress.names }
      some (named.enter progress.switches, rest)
    else
      none

/-- Reads the switches behind a question mark: they hold for a group, or from
here on. -/
def turn? (progress : Progress) (text : List Char) :
    Option (Progress × List Char) :=
  let given := text.takeWhile fun sign => sign ≠ ':' && sign ≠ ')'
  match text.dropWhile fun sign => sign ≠ ':' && sign ≠ ')' with
  | [] => none
  | sign :: rest => do
    let switches ← progress.switches.turned? given
    if sign = ':' then
      return (progress.enter switches, rest)
    else if given.isEmpty then
      none
    else
      let turned := { progress with switches }
      return (turned.add { depth := 0, repeatable := false }, rest)

/-- Reads the start of a group behind its opening parenthesis. -/
def group? (progress : Progress) (text : List Char) :
    Option (Progress × List Char) :=
  match progress.switches.skip text with
  | '?' :: 'P' :: '<' :: rest => progress.enterNamed? rest
  | '?' :: '<' :: rest => progress.enterNamed? rest
  | '?' :: rest => progress.turn? rest
  | rest => some (progress.enter progress.switches, rest)

/-- Reads one part or sign of a pattern. -/
def step? (progress : Progress) (sign : Char) (rest : List Char) :
    Option (Progress × List Char) := do
  match sign with
  | '(' => progress.group? rest
  | ')' => return (← progress.leave?, rest)
  | '|' => return (progress.branch, rest)
  | '[' =>
    let (depth, after) ← set? progress.switches rest
    return (progress.add { depth }, after)
  | '*' | '+' | '?' =>
    let repeated ← progress.repeat?
    return (repeated, if rest.head? = some '?' then rest.tail else rest)
  | '{' => none
  | '.' =>
    if progress.switches.characters then
      return (progress.add { depth := 0 }, rest)
    else
      none
  | '^' | '$' => return (← progress.addElement? .edge, rest)
  | _ =>
    let (element, after) ← Element.read? progress.switches (sign :: rest)
    return (← progress.addElement? element, after)

/-- Reads a pattern to its end and gives its depth.  Every step takes a
character, so the length of the text bounds their number. -/
def finish? : Nat → Progress → List Char → Option Nat
  | 0, _, _ => none
  | bound + 1, progress, text =>
    match progress.switches.skip text with
    | [] => if progress.around.isEmpty then some progress.group.depth else none
    | sign :: rest => do
      let (next, after) ← progress.step? sign rest
      finish? bound next after

end Progress

/-- How deeply the parts of a pattern are nested, if it can be read. -/
def depth? (text : List Char) : Option Nat :=
  Progress.finish? (text.length + 1) {} text

/-- Whether a pattern can be read and is not nested too deeply. -/
def isWellFormed (text : List Char) : Bool :=
  (depth? text).any (· ≤ depthLimit)

example : depth? "(ab|c*)+".toList = some 4 := by decide +kernel

example : isWellFormed "(?-u)\\d|(?-u:\\b)".toList = true ∧
    isWellFormed "\\d".toList = false := by
  decide +kernel

example : isWellFormed "a**".toList = true ∧
    isWellFormed "(?i)*".toList = false := by
  decide +kernel

end WindowedLauncher.Text.Pattern
