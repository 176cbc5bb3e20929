import WindowedLauncher.Text.Pattern.Element

/-!
# Bracketed sets of a pattern

A set of characters stands in brackets: single members, ranges, named classes
and sets inside it, with signs for what two sets have in common or not in
common.  A set is read to find out where it ends and how deeply its parts are
nested.
-/

namespace WindowedLauncher.Text.Pattern

/-- The depth of parts that stand side by side: a single one has no cover
around it. -/
def joined : List Nat → Nat
  | [] => 0
  | [depth] => depth
  | depths => depths.foldl max 0 + 1

/-- A set whose closing bracket has not been read. -/
structure OpenSet where
  /-- The depth of what stands before the last sign for two sets, if there is
  one. -/
  operand : Option Nat := none
  members : List Nat := []
  /-- Whether nothing but minus signs has been read. -/
  opening : Bool := true
deriving DecidableEq, Repr

namespace OpenSet

/-- How deeply the parts of a set are nested so far. -/
def depth (set : OpenSet) : Nat :=
  match set.operand with
  | none => joined set.members
  | some operand => max operand (joined set.members) + 1

/-- A set with one more member, nested so deeply. -/
def add (set : OpenSet) (depth : Nat) : OpenSet :=
  { set with members := depth :: set.members, opening := false }

/-- A set behind a sign for two sets: all before it becomes one operand. -/
def operate (set : OpenSet) : OpenSet where
  operand := some set.depth
  members := []
  opening := false

/-- The depth of a set with its brackets around it. -/
def closed (set : OpenSet) : Nat :=
  set.depth + 1

/-- Whether a sign at the start of a set is a plain member: a minus sign, or a
closing bracket. -/
def takesPlainly (set : OpenSet) (sign : Char) : Bool :=
  set.opening && (sign = '-' || (sign = ']' && set.members.isEmpty))

end OpenSet

/-- The names of the named classes. -/
def classNames : List String :=
  ["alnum", "alpha", "ascii", "blank", "cntrl", "digit", "graph", "lower",
    "print", "punct", "space", "upper", "word", "xdigit"]

/-- Reads a named class behind its opening bracket: whether it is negated, and
what follows. -/
def namedClass? (text : List Char) : Option (Bool × List Char) :=
  match text with
  | ':' :: rest =>
    let negated := rest.head? = some '^'
    let named := if negated then rest.tail else rest
    match named.dropWhile (· ≠ ':') with
    | ':' :: ']' :: after =>
      if classNames.contains (String.ofList (named.takeWhile (· ≠ ':'))) then
        some (negated, after)
      else
        none
    | _ => none
  | _ => none

/-- Whether a named class or its negation can stand in a set. -/
def allowsClass (switches : Switches) (negated : Bool) : Bool :=
  if switches.characters then !switches.ignoresCase else !negated

/-- Reads the start of a set behind its opening bracket.  Only characters can
be excluded. -/
def openSet? (switches : Switches) (text : List Char) : Option (List Char) :=
  match switches.skip text with
  | '^' :: rest => if switches.characters then some rest else none
  | rest => some rest

/-- Reads a member that is a range or a single element. -/
def member? (switches : Switches) (text : List Char) : Option (List Char) := do
  let (first, afterFirst) ← Element.read? switches text
  let afterFirst := switches.skip afterFirst
  let single := if first.isMember switches then some afterFirst else none
  match afterFirst with
  | '-' :: rest =>
    let sight := switches.inSight? rest
    if sight = some ']' || sight = some '-' then
      single
    else do
      let (last, afterLast) ← Element.read? switches (switches.skip rest)
      match first, last with
      | .character low _, .character high _ =>
        if low ≤ high && first.isMember switches && last.isMember switches then
          some afterLast
        else
          none
      | _, _ => none
  | _ => single

/-- Reads a set to its closing bracket: its depth, and what follows.  The set
is given with the sets around it, the nearest first.  Every step takes a
character, so the length of the text bounds their number. -/
def readSet? (switches : Switches) :
    Nat → OpenSet → List OpenSet → List Char → Option (Nat × List Char)
  | 0, _, _, _ => none
  | bound + 1, set, around, text =>
    match switches.skip text with
    | [] => none
    | sign :: rest =>
      if set.takesPlainly sign then
        if (Element.character sign false).isMember switches then
          readSet? switches bound
            { set.add 0 with opening := sign = '-' } around rest
        else
          none
      else
        match sign, rest with
        | '[', _ =>
          match namedClass? rest with
          | some (negated, after) =>
            if allowsClass switches negated then
              readSet? switches bound (set.add 0) around after
            else
              none
          | none => do
            readSet? switches bound {} (set :: around)
              (← openSet? switches rest)
        | ']', _ =>
          match around with
          | [] => some (set.closed, rest)
          | outer :: further =>
            readSet? switches bound (outer.add set.closed) further rest
        | '&', '&' :: after => readSet? switches bound set.operate around after
        | '-', '-' :: after => readSet? switches bound set.operate around after
        | '~', '~' :: after => readSet? switches bound set.operate around after
        | _, _ => do
          readSet? switches bound (set.add 0) around
            (← member? switches (sign :: rest))

/-- Reads a set behind its opening bracket: its depth, and what follows. -/
def set? (switches : Switches) (text : List Char) :
    Option (Nat × List Char) := do
  readSet? switches (text.length + 1) {} [] (← openSet? switches text)

example : set? {} "a-z&&[^b]]c".toList = some (3, ['c']) := by decide +kernel

example : set? {} "]".toList = none ∧ set? {} "z-a]".toList = none := by
  decide +kernel

end WindowedLauncher.Text.Pattern
