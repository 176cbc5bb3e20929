import WindowedLauncher.Activity

/-!
# Traced computations

A `Traced α` is a value of type `α` together with everything that the outside
world saw while it was computed, in order.  Main statements: the monad laws,
and the equations `value_bind` and `trace_bind` by which a proof reads the
trace of a composed computation off its parts.
-/

namespace WindowedLauncher

/-- A value and what the outside world saw while it was computed. -/
@[ext]
structure Traced (α : Type) where
  value : α
  trace : List Activity
deriving DecidableEq, Repr

namespace Traced

variable {α β : Type}

instance : Monad Traced where
  pure value := ⟨value, []⟩
  bind first next :=
    ⟨(next first.value).value, first.trace ++ (next first.value).trace⟩

@[simp]
theorem value_pure (value : α) : (pure value : Traced α).value = value :=
  rfl

@[simp]
theorem trace_pure (value : α) : (pure value : Traced α).trace = [] :=
  rfl

/-- What is done first passes on its value. -/
@[simp]
theorem value_bind (first : Traced α) (next : α → Traced β) :
    (first >>= next).value = (next first.value).value :=
  rfl

/-- What is done first is seen first. -/
@[simp]
theorem trace_bind (first : Traced α) (next : α → Traced β) :
    (first >>= next).trace = first.trace ++ (next first.value).trace :=
  rfl

/-- A value can be changed after it was computed. -/
@[simp]
theorem value_map (function : α → β) (traced : Traced α) :
    (function <$> traced).value = function traced.value :=
  rfl

/-- Changing the value of a computation is not seen. -/
@[simp]
theorem trace_map (function : α → β) (traced : Traced α) :
    (function <$> traced).trace = traced.trace :=
  List.append_nil traced.trace

instance : LawfulMonad Traced := LawfulMonad.mk' Traced
  (fun traced => by
    apply Traced.ext
    · rfl
    · exact List.append_nil traced.trace)
  (fun value next => by
    apply Traced.ext
    · rfl
    · exact List.nil_append (next value).trace)
  (fun first second third => by
    apply Traced.ext
    · rfl
    · exact List.append_assoc _ _ _)

/-- A traced computation puts down what it does.  This is how a computation is
read where nothing else is said. -/
@[default_instance]
instance : Effects Traced where
  call made := ⟨(), [.call made]⟩
  report severity origin message := ⟨(), [.event ⟨severity, origin, message⟩]⟩

/-- A call is seen. -/
@[simp]
theorem trace_call (made : Call) :
    (Effects.call made : Traced Unit).trace = [.call made] :=
  rfl

/-- A report is seen. -/
@[simp]
theorem trace_report
    (severity : Severity) (origin : Origin) (message : String) :
    (Effects.report severity origin message : Traced Unit).trace =
      [.event ⟨severity, origin, message⟩] :=
  rfl

/-- The calls that are made, in order. -/
def calls (traced : Traced α) : List Call :=
  traced.trace.filterMap Activity.call?

/-- The events that are reported, in order. -/
def events (traced : Traced α) : List Event :=
  traced.trace.filterMap Activity.event?

/-- The events of one severity. -/
def eventsAt (severity : Severity) (traced : Traced α) : List Event :=
  traced.events.filter (·.severity = severity)

/-- What is done first calls first. -/
@[simp]
theorem calls_bind (first : Traced α) (next : α → Traced β) :
    (first >>= next).calls = first.calls ++ (next first.value).calls := by
  simp [calls]

/-- What is done first reports first. -/
@[simp]
theorem events_bind (first : Traced α) (next : α → Traced β) :
    (first >>= next).events = first.events ++ (next first.value).events := by
  simp [events]

/-- The events of one severity are kept apart by composition as well. -/
@[simp]
theorem eventsAt_bind
    (severity : Severity) (first : Traced α) (next : α → Traced β) :
    (first >>= next).eventsAt severity =
      first.eventsAt severity ++ (next first.value).eventsAt severity := by
  simp [eventsAt]

@[simp]
theorem calls_map (function : α → β) (traced : Traced α) :
    (function <$> traced).calls = traced.calls := by
  simp [calls]

@[simp]
theorem events_map (function : α → β) (traced : Traced α) :
    (function <$> traced).events = traced.events := by
  simp [events]

@[simp]
theorem eventsAt_map
    (severity : Severity) (function : α → β) (traced : Traced α) :
    (function <$> traced).eventsAt severity = traced.eventsAt severity := by
  simp [eventsAt]

@[simp]
theorem calls_pure (value : α) : (pure value : Traced α).calls = [] :=
  rfl

@[simp]
theorem events_pure (value : α) : (pure value : Traced α).events = [] :=
  rfl

@[simp]
theorem eventsAt_pure (severity : Severity) (value : α) :
    (pure value : Traced α).eventsAt severity = [] :=
  rfl

/-- A call is a call. -/
@[simp]
theorem calls_call (made : Call) :
    (Effects.call made : Traced Unit).calls = [made] :=
  rfl

/-- A call is no event. -/
@[simp]
theorem events_call (made : Call) :
    (Effects.call made : Traced Unit).events = [] :=
  rfl

@[simp]
theorem eventsAt_call (severity : Severity) (made : Call) :
    (Effects.call made : Traced Unit).eventsAt severity = [] :=
  rfl

/-- A report is no call. -/
@[simp]
theorem calls_report
    (severity : Severity) (origin : Origin) (message : String) :
    (Effects.report severity origin message : Traced Unit).calls = [] :=
  rfl

/-- A report is an event. -/
@[simp]
theorem events_report
    (severity : Severity) (origin : Origin) (message : String) :
    (Effects.report severity origin message : Traced Unit).events =
      [⟨severity, origin, message⟩] :=
  rfl

/-- A report of one severity is no event of another one. -/
theorem eventsAt_report_of_ne
    {severity other : Severity} (differs : other ≠ severity)
    (origin : Origin) (message : String) :
    (Effects.report other origin message : Traced Unit).eventsAt severity =
      [] := by
  simp [eventsAt, differs]

end Traced

end WindowedLauncher
