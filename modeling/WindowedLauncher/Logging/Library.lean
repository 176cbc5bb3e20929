import WindowedLauncher.Activity

/-!
# The libraries behind a log

A process that keeps a log leaves four things to others: how the setting of a
filter is read, how the record of an event is written, in which words a second
subscriber is refused, and when error reporting is refused.  A `Library` is one
way to do these, together with what a process relies on: `info` is a filter, a
record tells its event and ends its line, and error reporting can be installed
just as long as nothing has been done with it.

Main statement: `reportingRefusal?_eq_none_iff`, the three rules about error
reporting as one.
-/

namespace WindowedLauncher

namespace Event

/-- An event as a line of a log tells it. -/
def line (event : Event) : String :=
  event.severity.name ++ " " ++ event.origin.path ++ ": " ++ event.message

/-- A message that is written as it is: it holds no control character. -/
def IsPlain (event : Event) : Prop :=
  ∀ character ∈ event.message.toList,
    0x20 ≤ character.toNat ∧
      (character.toNat < 0x7F ∨ 0x9F < character.toNat)

/-- Whether an event matters at least as much as an information. -/
def isInformative (event : Event) : Bool :=
  Severity.info.rank ≤ event.severity.rank

end Event

namespace Logging

/-- Why the setting of a filter is not read. -/
inductive Misreading where
  | unreadable
  /-- A part of the text begins or ends inside a character. -/
  | severed
deriving DecidableEq, Repr

/-- What is done with the reporting of errors in a process. -/
inductive ReportUse where
  /-- An error is put into words. -/
  | description
  /-- Error reporting is installed, or that is refused. -/
  | installation
deriving DecidableEq, Repr

/-- How many line feeds a text holds. -/
def lineFeeds (text : String) : Nat :=
  text.toList.count '\n'

/-- The line feeds of two texts are those of the texts behind each other. -/
@[simp]
theorem lineFeeds_append (first second : String) :
    lineFeeds (first ++ second) = lineFeeds first + lineFeeds second := by
  simp [lineFeeds]

/-- What a process that keeps a log leaves to others, and what it relies on. -/
structure Library where
  /-- The events that are let through by the filter of a setting.  A setting
  may be unreadable, and reading it may break off. -/
  readFilter : String → Except Misreading (Event → Bool)
  /-- The record of an event that is told at a moment. -/
  record : Nat → Event → String
  /-- The words in which a second subscriber is refused. -/
  subscriberRefusal : String
  /-- The words in which error reporting is refused after what has been done
  with it, the last first. -/
  reportingRefusal? : List ReportUse → Option String
  readFilter_info : readFilter "info" = .ok Event.isInformative
  /-- A record ends its last line. -/
  record_ends : ∀ moment event, ∃ text, record moment event = text ++ "\n"
  /-- A record is one line, or has as many more as the message. -/
  lineFeeds_record : ∀ moment event,
    lineFeeds (record moment event) = lineFeeds event.message + 1
  /-- A record tells its event, behind a time stamp. -/
  record_of_plain : ∀ moment (event : Event), event.IsPlain →
    ∃ stamp, record moment event = stamp ++ event.line ++ "\n"
  /-- Error reporting can be installed if nothing has been done with it. -/
  reportingRefusal?_nil : reportingRefusal? [] = none
  /-- Error reporting can be installed only once. -/
  isSome_reportingRefusal?_of_installed : ∀ uses,
    .installation ∈ uses → (reportingRefusal? uses).isSome = true
  /-- An error that is put into words fixes how errors are reported. -/
  isSome_reportingRefusal?_of_described : ∀ uses,
    .description ∈ uses → (reportingRefusal? uses).isSome = true

namespace Library

/-- The filter that is used when none is set, or none that can be read. -/
def defaultFilter? (library : Library) : Option (Event → Bool) :=
  (library.readFilter "info").toOption

/-- The filter of a setting, unless reading it breaks off. -/
def filter? (library : Library) : Option String → Option (Event → Bool)
  | none => library.defaultFilter?
  | some text =>
    match library.readFilter text with
    | .ok admits => some admits
    | .error .unreadable => library.defaultFilter?
    | .error .severed => none

variable (library : Library)

/-- Without a setting, events from informations on are let through. -/
theorem filter?_none : library.filter? none = some Event.isInformative := by
  rw [filter?, defaultFilter?, library.readFilter_info]
  rfl

/-- Error reporting can be installed just as long as nothing has been done with
it. -/
theorem reportingRefusal?_eq_none_iff (uses : List ReportUse) :
    library.reportingRefusal? uses = none ↔ uses = [] := by
  constructor
  · intro free
    cases uses with
    | nil => rfl
    | cons use earlier =>
        have refused :
            (library.reportingRefusal? (use :: earlier)).isSome = true := by
          cases use with
          | description =>
              exact library.isSome_reportingRefusal?_of_described _
                List.mem_cons_self
          | installation =>
              exact library.isSome_reportingRefusal?_of_installed _
                List.mem_cons_self
        rw [free] at refused
        cases refused
  · rintro rfl
    exact library.reportingRefusal?_nil

end Library

end Logging

end WindowedLauncher
