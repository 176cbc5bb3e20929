import WindowedLauncher.Fault

/-!
# Launch failures

The three ways in which a launch can fail, their wording, and what follows from
each: the exit status is always the same, and only a child that could not be
started is brought to the user's attention.
-/

namespace WindowedLauncher

/-- The exit status of a launcher that has no exit code of a child to report. -/
def failureStatus : UInt32 := 1

/-- The ways in which a launch can fail. -/
inductive LaunchFailure where
  | arguments (reason : Fault)
  | start (target : String) (reason : Fault)
  /-- The target was started, and its exit code could not be obtained. -/
  | exitCode (reason : Fault)
deriving DecidableEq, Repr

namespace LaunchFailure

/-- The wording of a failure, with that of its reason. -/
def message : LaunchFailure → String
  | .arguments reason =>
    "unable to split the process command line: " ++ reason.message
  | .start target reason =>
    "unable to start " ++ target ++ ": " ++ reason.message
  | .exitCode reason =>
    "unable to retrieve the exit code of the child process: " ++ reason.message

/-- The long form of the wording, which has nothing to add: the reason is told
by its message alone. -/
def detailedMessage (failure : LaunchFailure) : String :=
  failure.message

/-- The error behind a launch failure: none, since the reason is part of the
wording. -/
def source? (_ : LaunchFailure) : Option Fault :=
  none

/-- The target of a failure to start one. -/
def target? : LaunchFailure → Option String
  | .arguments _ => none
  | .start target _ => some target
  | .exitCode _ => none

/-- The exit status that a failure leads to. -/
def exitStatus (_ : LaunchFailure) : UInt32 :=
  failureStatus

/-- Whether the user is told of the failure in a dialog. -/
def isShownToUser : LaunchFailure → Bool
  | .arguments _ => false
  | .start _ _ => true
  | .exitCode _ => false

end LaunchFailure

end WindowedLauncher
