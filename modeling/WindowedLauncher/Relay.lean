import WindowedLauncher.CommandLine.Quoted
import WindowedLauncher.CommandLine.Split
import WindowedLauncher.InstallDirectory

/-!
# Relays

A launcher that is started by a launcher reads the command line that the other
one wrote.  A `Hop` is what one launcher of such a chain reads and writes.
-/

namespace WindowedLauncher

/-- What one launcher of a chain reads, and the command line that it writes for
the next. -/
structure Hop where
  argv : List (List Char)
  line : WideString
deriving DecidableEq, Repr

namespace Relay

/-- One hop of a chain in which every launcher has its target in the same
directory. -/
def hop (directory : InstallDirectory) (line : WideString) : Hop :=
  let argv := CommandLine.split line.decode
  { argv
    line := CommandLine.ofArguments directory.target
      (CommandLine.handedOn (argv.map WideString.encode)) }

/-- The given number of hops, each reading the line that the one before it
wrote. -/
def hops (directory : InstallDirectory) : Nat → WideString → List Hop
  | 0, _ => []
  | count + 1, line =>
    let first := hop directory line
    first :: hops directory count first.line

/-- A whole relay, for the directory of an executable. -/
def relay (imagePath line : WideString) (count : Nat) : List Hop :=
  hops (InstallDirectory.ofImagePath imagePath).value count line

end Relay

end WindowedLauncher
