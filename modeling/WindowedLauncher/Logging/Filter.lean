import WindowedLauncher.Logging.Directive

/-!
# Filters

A filter is a list of directives.  About an event the most particular directive
decides that has a say about the event's origin, and of equally particular ones
the last; if none has a say, the event is not let through.

Main statement: `readFilter_info`, what `info` lets through.
-/

namespace WindowedLauncher.Logging

/-- A list of directives. -/
abbrev Filter := List Directive

namespace Filter

/-- The more particular of two directives, the second if they are equally
particular. -/
def moreSpecific (best : Option Directive) (next : Directive) :
    Option Directive :=
  match best with
  | none => some next
  | some earlier =>
    if next.specificity < earlier.specificity then some earlier else some next

/-- The directive that decides about events from the given part of the
program. -/
def decisive? (filter : Filter) (origin : Origin) : Option Directive :=
  (filter.filter (·.concerns origin)).foldl moreSpecific none

/-- Whether an event is let through. -/
def admits (filter : Filter) (event : Event) : Bool :=
  (filter.decisive? event.origin).any (·.threshold.admits event.severity)

/-- Reads directives between commas, up to one that cannot be read; empty ones
are passed over. -/
def parse (text : List Char) : Except Misreading Filter :=
  ((text.splitOn ',').filter (!·.isEmpty)).mapM Directive.parse

end Filter

/-- The events that the filter of a setting lets through. -/
def readFilter (setting : String) : Except Misreading (Event → Bool) :=
  (Filter.parse setting.toList).map Filter.admits

/-- The filter `info` lets through what matters at least as much as an
information. -/
theorem readFilter_info : readFilter "info" = .ok Event.isInformative := by
  have read : Filter.parse "info".toList =
      .ok [{ threshold := some .info }] := by
    rfl
  rw [readFilter, read]
  rfl

end WindowedLauncher.Logging
