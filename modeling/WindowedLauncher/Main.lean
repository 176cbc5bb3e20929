import WindowedLauncher.ProgramOutput

/-! # The command line program -/

/-- Runs the program: this system is not Windows, so it says so and fails. -/
def main (arguments : List String) : IO UInt32 := do
  let output := WindowedLauncher.ProgramOutput.unsupported arguments
  IO.print output.stdout
  IO.eprint output.stderr
  return output.exitStatus
