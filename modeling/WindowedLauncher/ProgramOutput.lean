import WindowedLauncher.LaunchFailure

/-!
# What the program leaves on a console

The launcher works on Windows only.  Elsewhere it says so and fails, whatever
its arguments are.
-/

namespace WindowedLauncher

/-- The visible end of a program: its exit status and what it wrote. -/
structure ProgramOutput where
  exitStatus : UInt32
  stdout : String
  stderr : String
deriving DecidableEq, Repr

namespace ProgramOutput

/-- What the program says on a system that is not Windows. -/
def unsupportedMessage : String := "nortools-launcher only runs on Windows"

/-- The end of the program on a system that is not Windows. -/
def unsupported (_ : List String) : ProgramOutput where
  exitStatus := failureStatus
  stdout := ""
  stderr := unsupportedMessage ++ "\n"

end ProgramOutput

end WindowedLauncher
