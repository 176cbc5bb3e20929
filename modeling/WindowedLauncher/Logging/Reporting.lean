import WindowedLauncher.Logging.Library

/-!
# Error reporting

A process describes its errors through one handler, in one theme.  Installing
error reporting sets the theme first and the handler second, and either can be
set only once.  An error that is described before that puts a plain handler in
place.

Main statement: `after_eq_unset_iff`, neither is set only as long as nothing
has been done.
-/

namespace WindowedLauncher.Logging

/-- How far error reporting has been set up. -/
inductive Reporting where
  | unset
  /-- The handler has been set by an error that was described. -/
  | plain
  | installed
deriving DecidableEq, Repr

namespace Reporting

/-- How far error reporting is set up by one use of it. -/
def next (reporting : Reporting) : ReportUse → Reporting
  | .description => if reporting = .unset then .plain else reporting
  | .installation => .installed

/-- How far error reporting is set up by what has been done with it, the last
first. -/
def after : List ReportUse → Reporting
  | [] => .unset
  | use :: earlier => (after earlier).next use

/-- The words in which error reporting is refused, if something stands in the
way.  The theme is set before the handler. -/
def refusal? : Reporting → Option String
  | .unset => none
  | .plain =>
    some "cannot install provided ErrorHook, a hook has already been installed"
  | .installed =>
    some ("could not set the provided `Theme` via " ++
      "`color_spantrace::set_theme` globally as another was already set")

/-- Nothing that is done leaves error reporting untouched. -/
theorem next_ne_unset (reporting : Reporting) (use : ReportUse) :
    reporting.next use ≠ .unset := by
  cases reporting <;> cases use <;> decide

/-- Nothing is set only as long as nothing has been done. -/
theorem after_eq_unset_iff (uses : List ReportUse) :
    after uses = .unset ↔ uses = [] := by
  cases uses with
  | nil => exact iff_of_true rfl rfl
  | cons use earlier =>
      exact iff_of_false (next_ne_unset _ use) (List.cons_ne_nil _ _)

/-- Whatever has been done stands in the way of installing error reporting. -/
theorem isSome_refusal?_after
    {uses : List ReportUse} (used : uses ≠ []) :
    (after uses).refusal?.isSome = true := by
  have set : after uses ≠ .unset := mt (after_eq_unset_iff uses).mp used
  cases reporting : after uses with
  | unset => exact absurd reporting set
  | plain => rfl
  | installed => rfl

end Reporting

end WindowedLauncher.Logging
