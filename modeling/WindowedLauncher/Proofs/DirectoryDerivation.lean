import WindowedLauncher.InstallDirectory

/-!
# Which directory an image path gives

An image path that is not too long gives what stands before its last
separator, so that deriving a directory undoes appending a name to it
(`value_ofImagePath_append`).  The limit is one on the whole path: a
directory is derived again from its own target exactly if there is room for
the target's name behind it (`value_ofImagePath_target_iff`).
-/

namespace WindowedLauncher.InstallDirectory

theorem value_ofImagePath_of_short
    {imagePath : WideString} (short : imagePath.length < imagePathLimit) :
    (ofImagePath imagePath).value = (parent? imagePath).elim here mk := by
  rw [ofImagePath, if_neg (Nat.not_le_of_lt short), Traced.value_pure]

theorem value_ofImagePath_of_long
    {imagePath : WideString} (long : imagePathLimit ≤ imagePath.length) :
    (ofImagePath imagePath).value = here := by
  rw [ofImagePath, if_pos long, Traced.value_bind, Traced.value_pure]

theorem value_ofImagePath_of_plain
    {imagePath : WideString}
    (plain : ∀ unit ∈ imagePath, isSeparator unit = false) :
    (ofImagePath imagePath).value = here := by
  by_cases long : imagePathLimit ≤ imagePath.length
  · exact value_ofImagePath_of_long long
  · rw [value_ofImagePath_of_short (Nat.lt_of_not_le long),
      parent?_of_plain imagePath plain]
    rfl

/-- The directory that a name was appended to is derived if the whole path is
not too long. -/
theorem value_ofImagePath_append
    (directory : WideString)
    {separator : UInt16} (separates : isSeparator separator = true)
    {name : WideString} (plain : ∀ unit ∈ name, isSeparator unit = false) :
    (ofImagePath (directory ++ separator :: name)).value =
      if directory.length + 1 + name.length < imagePathLimit then
        ⟨directory⟩
      else
        here := by
  have length : (directory ++ separator :: name).length =
      directory.length + 1 + name.length := by
    rw [List.length_append, List.length_cons, Nat.add_assoc,
      Nat.add_comm 1]
  rw [← length]
  split
  next short =>
    rw [value_ofImagePath_of_short short,
      parent?_append directory separator name separates plain]
    rfl
  next long =>
    exact value_ofImagePath_of_long (Nat.le_of_not_lt long)

/-! ## Targets -/

theorem target_eq (directory : InstallDirectory) :
    directory.target =
      directory.path ++ 0x5C :: WideString.ofString targetName :=
  rfl

theorem isSeparator_of_mem_targetName :
    ∀ unit ∈ WideString.ofString targetName, isSeparator unit = false := by
  have none : (WideString.ofString targetName).any isSeparator = false := by
    decide
  simpa using none

/-- How long the path of a directory may be for the path of its target not to
be too long. -/
def roomForTarget : Nat :=
  imagePathLimit - (WideString.ofString targetName).length - 2

/-- The directory of a target is found again if the target is within the
limit. -/
theorem value_ofImagePath_target (directory : InstallDirectory) :
    (ofImagePath directory.target).value =
      if directory.path.length ≤ roomForTarget then directory else here := by
  have nameFits :
      (WideString.ofString targetName).length + 2 ≤ imagePathLimit := by
    decide
  have fits : directory.path.length + 1 +
      (WideString.ofString targetName).length < imagePathLimit ↔
        directory.path.length ≤ roomForTarget := by
    rw [roomForTarget]
    omega
  rw [target_eq, value_ofImagePath_append directory.path (by decide)
    isSeparator_of_mem_targetName]
  simp only [fits]

/-- A directory is derived from its own target exactly if there is room for
the target. -/
theorem value_ofImagePath_target_iff (directory : InstallDirectory) :
    (ofImagePath directory.target).value = directory ↔
      directory.path.length ≤ roomForTarget := by
  rw [value_ofImagePath_target]
  split
  next room => exact iff_of_true rfl room
  next noRoom =>
    -- There is room behind the fallback, so it is not the directory.
    refine iff_of_false ?_ noRoom
    rintro rfl
    exact noRoom (by decide)

/--
Deriving a directory undoes appending a separator and a name to it, as long
as the whole path has less than 260 units; a longer path, and one without a
separator, give the current directory.  A directory is therefore derived from
its target exactly if it has at most 246 units, and so is, if it is not
longer, whatever directory was derived from an image path.
-/
theorem ofImagePath_undoes_appending :
    (∀ (directory : WideString) (separator : UInt16) (name : WideString),
      isSeparator separator = true →
      (∀ unit ∈ name, isSeparator unit = false) →
      (ofImagePath (directory ++ separator :: name)).value =
        if directory.length + 1 + name.length < 260 then
          ⟨directory⟩
        else
          here) ∧
    (∀ imagePath : WideString,
      (∀ unit ∈ imagePath, isSeparator unit = false) →
      (ofImagePath imagePath).value = here) ∧
    (∀ directory : InstallDirectory,
      (ofImagePath directory.target).value = directory ↔
        directory.path.length ≤ 246) ∧
    (∀ imagePath : WideString,
      (ofImagePath imagePath).value.path.length ≤ 246 →
      (ofImagePath (ofImagePath imagePath).value.target).value =
        (ofImagePath imagePath).value) := by
  refine ⟨?_, ?_, value_ofImagePath_target_iff, ?_⟩
  · intro directory separator name separates plain
    exact value_ofImagePath_append directory separates plain
  · intro imagePath plain
    exact value_ofImagePath_of_plain plain
  · intro imagePath room
    exact (value_ofImagePath_target_iff _).mpr room

/-- A path with both separators, one with none, and a target. -/
theorem ofImagePath_undoes_appending_sample :
    (ofImagePath (WideString.ofString "C:\\tools/run.exe")).value =
        ⟨WideString.ofString "C:\\tools"⟩ ∧
      (ofImagePath (WideString.ofString "run.exe")).value = here ∧
      (ofImagePath (target ⟨WideString.ofString "C:\\tools"⟩)).value =
        ⟨WideString.ofString "C:\\tools"⟩ := by
  obtain ⟨cut, unseparated, -, again⟩ := ofImagePath_undoes_appending
  have plain : ∀ unit ∈ WideString.ofString "run.exe",
      isSeparator unit = false := by
    have none : (WideString.ofString "run.exe").any isSeparator = false := by
      decide
    simpa using none
  have derived : (ofImagePath
      (WideString.ofString "C:\\tools/run.exe")).value =
        ⟨WideString.ofString "C:\\tools"⟩ :=
    cut (WideString.ofString "C:\\tools") 0x2F
      (WideString.ofString "run.exe") (by decide) plain
  have rederived := again (WideString.ofString "C:\\tools/run.exe")
  rw [derived] at rederived
  exact ⟨derived, unseparated _ plain, rederived (by decide)⟩

end WindowedLauncher.InstallDirectory
