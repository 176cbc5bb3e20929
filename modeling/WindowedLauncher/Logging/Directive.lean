import WindowedLauncher.Logging.Library
import WindowedLauncher.Text.Decimal
import WindowedLauncher.Text.Pattern.WellFormed
import WindowedLauncher.Text.Slice

/-!
# Filter directives

A directive lets events through from a severity upwards, for the parts of the
program whose path starts with the directive's target, or for all of them.  It
is written as a severity, as a target, or as `target=severity`; without a
severity everything is let through.  A condition in brackets may stand after
the target: `[span]` and `[span{field=value}]` ask for an enclosing span or for
the value of a field, which no event of this program has, and `[{field}]` asks
for a field of that name.

`Directive.parse` reads one directive.  Its shape is looked for in the text
without the blanks around it; the parts are then sliced out of the whole text
at the places found, counted in bytes.  So a blank in front moves every part,
and where such a slice would cut a character in two, reading breaks off.
-/

namespace WindowedLauncher.Logging

/-- The least severity that is let through; `none` lets nothing through. -/
abbrev Threshold := Option Severity

namespace Threshold

/-- Whether events of a severity are let through. -/
def admits (threshold : Threshold) (severity : Severity) : Bool :=
  threshold.any (·.rank ≤ severity.rank)

/-- The number written by a text of decimal digits, with or without a plus
sign. -/
def number? (text : List Char) : Option Nat :=
  let digits := if text.head? = some '+' then text.tail else text
  if !digits.isEmpty && digits.all Char.isDigit then
    some (digits.foldl
      (fun value digit => value * 10 + (digit.toNat - '0'.toNat)) 0)
  else
    none

/-- The threshold that a number stands for. -/
def ofNumber? : Nat → Option Threshold
  | 0 => some none
  | 1 => some (some .error)
  | 2 => some (some .warn)
  | 3 => some (some .info)
  | 4 => some (some .debug)
  | 5 => some (some .trace)
  | _ => none

/-- The names of the thresholds. -/
def named : List (String × Threshold) :=
  [("error", some .error), ("warn", some .warn), ("info", some .info),
    ("debug", some .debug), ("trace", some .trace), ("off", none)]

/-- Reads a threshold: a number from 0 to 5, or a name in any case. -/
def parse? (text : List Char) : Option Threshold :=
  ((number? text).bind ofNumber?).or
    (named.lookup (String.ofList (text.map Char.toLower)))

end Threshold

/-- A rule of a filter. -/
structure Directive where
  /-- The start of the paths that the rule is for, if it is not for all. -/
  target : Option (List Char) := none
  field : Option (List Char) := none
  /-- Whether the rule asks for an enclosing span or for the value of a
  field. -/
  dynamic : Bool := false
  /-- What the rule lets through: everything, unless a severity is written. -/
  threshold : Threshold := some .trace
deriving DecidableEq, Repr

namespace Directive

/-- The one field that every event of the program has. -/
def messageField : List Char := "message".toList

/-- Whether the rule has a say about events from the given part of the
program. -/
def concerns (directive : Directive) (origin : Origin) : Bool :=
  !directive.dynamic &&
    directive.target.all (fun target => target.isPrefixOf origin.path.toList) &&
    directive.field.all (· = messageField)

/-- How particular a rule is: first by the length of its target, then by
whether it names a field. -/
def specificity (directive : Directive) : Nat :=
  2 * directive.target.elim 0 (fun target => target.length + 1) +
    directive.field.elim 0 (fun _ => 1)

/-- Whether a directive can start with a character, apart from a bracket. -/
def opens (character : Char) : Bool :=
  character = '-' || character = ':' || character = '_' ||
    Text.isAlphanumeric character

/-- A directive with the threshold that a text writes, if it writes any. -/
def leveled (directive : Directive) (text : List Char) :
    Except Misreading Directive :=
  if text.isEmpty then
    .ok directive
  else
    match Threshold.parse? text with
    | some threshold => .ok { directive with threshold }
    | none => .error .unreadable

/-- A directive without a sign in it: a threshold if it can be read as one, and
a target otherwise. -/
def ofWord (text : List Char) : Directive :=
  match Threshold.parse? text with
  | some threshold => { threshold }
  | none => { target := some text }

/-- A part of a directive, between two places. -/
def part (whole : List Char) (start stop : Nat) :
    Except Misreading (List Char) :=
  match Text.slice? whole start stop with
  | some text => .ok text
  | none => .error .severed

/-- The threshold at the end of a directive, from the given place on. -/
def leveledFrom (directive : Directive) (whole : List Char) (place : Nat) :
    Except Misreading Directive := do
  directive.leveled (← part whole place (Text.size whole))

/-- What follows the closing bracket of a condition, at the given place:
nothing, or a threshold. -/
def afterCondition (directive : Directive) (whole : List Char) (place : Nat) :
    List Char → Except Misreading Directive
  | [] => .ok directive
  | '=' :: _ => directive.leveledFrom whole (place + 1)
  | _ => .error .unreadable

/-- Whether a value can be asked for: it is a number, or a pattern. -/
def isValue (text : List Char) : Bool :=
  Text.isDecimal text || Text.Pattern.isWellFormed text

/-- The value in a condition on a field, up to a second equals sign. -/
def fieldValue? (text : List Char) : Option (List Char) :=
  match text.dropWhile (· ≠ '=') with
  | [] => none
  | _ :: rest => some (rest.takeWhile (· ≠ '='))

/-- A directive with a condition on a field. -/
def withField (directive : Directive) (text : List Char) :
    Except Misreading Directive :=
  let value := fieldValue? text
  if !text.isEmpty && value.all isValue then
    .ok { directive with
      field := some (text.takeWhile (· ≠ '='))
      dynamic := directive.dynamic || value.isSome }
  else
    .error .unreadable

/-- The rest of a condition, from the given place after the opening brace of
its field. -/
def fieldCondition
    (directive : Directive) (whole : List Char) (place : Nat)
    (scanned : List Char) : Except Misreading Directive :=
  let stop := place + Text.size (scanned.takeWhile (· ≠ '}'))
  match scanned.dropWhile (· ≠ '}') with
  | [] => .error .unreadable
  | _ :: rest => do
    let directive ← directive.withField (← part whole place stop)
    match rest with
    | ']' :: after => afterCondition directive whole (stop + 2) after
    | _ => .error .unreadable

/-- A condition, from the given place after its opening bracket. -/
def condition
    (directive : Directive) (whole : List Char) (place : Nat)
    (scanned : List Char) : Except Misreading Directive :=
  let stop := place +
    Text.size (scanned.takeWhile fun sign => sign ≠ ']' && sign ≠ '{')
  match scanned.dropWhile fun sign => sign ≠ ']' && sign ≠ '{' with
  | [] => .error .unreadable
  | sign :: rest => do
    let span ← part whole place stop
    if sign = ']' then
      afterCondition { directive with dynamic := true } whole (stop + 1) rest
    else
      fieldCondition { directive with dynamic := !span.isEmpty } whole
        (stop + 1) rest

/-- A directive that starts with a word, given without the blanks around it. -/
def worded (whole scanned : List Char) : Except Misreading Directive :=
  let stop :=
    Text.size (scanned.takeWhile fun sign => sign ≠ '=' && sign ≠ '[')
  match scanned.dropWhile fun sign => sign ≠ '=' && sign ≠ '[' with
  | [] => .ok (ofWord whole)
  | sign :: rest => do
    let directive : Directive := { target := some (← part whole 0 stop) }
    if sign = '=' then
      directive.leveledFrom whole (stop + 1)
    else
      condition directive whole (stop + 1) rest

/-- Reads a directive. -/
def parse (whole : List Char) : Except Misreading Directive :=
  match Text.trim whole with
  | [] => .error .unreadable
  | '[' :: rest => condition {} whole 1 rest
  | first :: rest =>
    if opens first then worded whole (first :: rest) else .error .unreadable

end Directive

end WindowedLauncher.Logging
