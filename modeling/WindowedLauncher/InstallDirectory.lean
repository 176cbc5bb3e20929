import WindowedLauncher.Host

/-!
# The install directory

The launcher looks for its target next to its own executable.  An install
directory is cut out of the path of that executable at the last separator; a
path without one, and a path that is too long, give the current directory.
Main statement: `ofImagePath_append`, cutting a file name off undoes appending
it.
-/

namespace WindowedLauncher

/-- The directory in which the target lies, and in which it is started. -/
structure InstallDirectory where
  path : WideString
deriving DecidableEq, Repr

namespace InstallDirectory

variable {m : Type → Type} [Monad m] [Effects m]

/-- The file name of the target. -/
def targetName : String := "nortools.exe"

/-- Paths of this many units or more are taken to be unavailable. -/
def imagePathLimit : Nat := 260

/-- The units that separate the parts of a path. -/
def isSeparator (unit : UInt16) : Bool :=
  unit = 0x5C || unit = 0x2F

/-- The current directory. -/
def here : InstallDirectory :=
  ⟨WideString.ofString "."⟩

/-- What stands before the last separator of a path, if it has one. -/
def parent? (path : WideString) : Option WideString :=
  match path.reverse.dropWhile (!isSeparator ·) with
  | [] => none
  | _ :: before => some before.reverse

/-- The directory of an executable.  A path that is too long is reported and
not used. -/
def ofImagePath (imagePath : WideString) : m InstallDirectory :=
  if imagePathLimit ≤ imagePath.length then do
    Effects.report .warn .installDirectory
      ("exec path is " ++ toString imagePath.length ++
        " units long, using the current directory")
    return here
  else
    return (parent? imagePath).elim here InstallDirectory.mk

/-- The directory of the running executable.  A host that does not tell its
path is reported. -/
def ofHost (host : Host) : m InstallDirectory :=
  match host.imagePath with
  | .ok imagePath => ofImagePath imagePath
  | .error number => do
    Effects.report .warn .installDirectory
      ("unable to get exec path, using the current directory: " ++
        (Fault.osError number).message)
    return here

/-- The path of the target in a directory. -/
def target (directory : InstallDirectory) : WideString :=
  directory.path ++ WideString.ofString ("\\" ++ targetName)

/-- Appending a separator and a name without separators is undone by taking the
parent. -/
theorem parent?_append
    (directory : WideString) (separator : UInt16) (name : WideString)
    (separates : isSeparator separator = true)
    (plain : ∀ unit ∈ name, isSeparator unit = false) :
    parent? (directory ++ separator :: name) = some directory := by
  have nameDropped : ∀ unit ∈ name.reverse, (!isSeparator unit) = true := by
    intro unit member
    simp [plain unit (List.mem_reverse.mp member)]
  unfold parent?
  rw [List.reverse_append, List.reverse_cons, List.append_assoc,
    List.dropWhile_append_of_pos nameDropped]
  simp [separates]

/-- A path without separators has no parent. -/
theorem parent?_of_plain
    (path : WideString) (plain : ∀ unit ∈ path, isSeparator unit = false) :
    parent? path = none := by
  have dropped : ∀ unit ∈ path.reverse, (!isSeparator unit) = true := by
    intro unit member
    simp [plain unit (List.mem_reverse.mp member)]
  have allDropped : (path.reverse ++ []).dropWhile (!isSeparator ·) = [] :=
    List.dropWhile_append_of_pos dropped
  rw [List.append_nil] at allDropped
  simp [parent?, allDropped]

/-- Cutting the file name off a path that is not too long undoes appending it,
silently. -/
theorem ofImagePath_append
    (directory : WideString) (separator : UInt16) (name : WideString)
    (separates : isSeparator separator = true)
    (plain : ∀ unit ∈ name, isSeparator unit = false)
    (short : (directory ++ separator :: name).length < imagePathLimit) :
    (ofImagePath (directory ++ separator :: name) : m InstallDirectory) =
      pure ⟨directory⟩ := by
  rw [ofImagePath, if_neg (Nat.not_le_of_lt short),
    parent?_append directory separator name separates plain]
  rfl

/-- Deriving a directory reports nothing in the name of another part. -/
theorem origin_of_mem_events_ofImagePath
    {imagePath : WideString} {event : Event}
    (member : event ∈ (ofImagePath imagePath).events) :
    event.origin = .installDirectory := by
  rw [ofImagePath] at member
  split at member
  · rw [Traced.events_bind, Traced.events_report, Traced.events_pure,
      List.append_nil, List.mem_singleton] at member
    rw [member]
  · exact absurd member List.not_mem_nil

/-- Only the derivation of a directory reports what becomes of it. -/
theorem origin_of_mem_events_ofHost
    {host : Host} {event : Event}
    (member : event ∈ (ofHost host).events) :
    event.origin = .installDirectory := by
  rw [ofHost] at member
  split at member
  · exact origin_of_mem_events_ofImagePath member
  · rw [Traced.events_bind, Traced.events_report, Traced.events_pure,
      List.append_nil, List.mem_singleton] at member
    rw [member]

end InstallDirectory

end WindowedLauncher
