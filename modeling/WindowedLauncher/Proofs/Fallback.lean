import WindowedLauncher.Proofs.DirectoryDerivation

/-!
# Which fallbacks are warned of

The current directory takes the place of one that cannot be derived: the host
does not tell the image path, the path is too long, or it has no separator.
The first two come with one warning each.  The third is silent, so that not
every fallback is warned of (`not_warnsOfFallback_unseparated`).  It is the
only silent one, and there is no warning without a fallback, not even for a
current directory that is cut out of a path (`warnsOfFallback_iff`).
-/

namespace WindowedLauncher.InstallDirectory

/-! ## Fallbacks and cuts -/

/-- The ways in which a host gives no directory of its own. -/
inductive FallsBack (host : Host) : Prop where
  | hidden
      {number : Int32}
      (unknown : host.imagePath = .error number)
  | overlong
      {imagePath : WideString}
      (known : host.imagePath = .ok imagePath)
      (long : imagePathLimit ≤ imagePath.length)
  | unseparated
      {imagePath : WideString}
      (known : host.imagePath = .ok imagePath)
      (plain : ∀ unit ∈ imagePath, isSeparator unit = false)

/-- The host's image path is not too long, and this stands before its last
separator. -/
inductive CutsOut (host : Host) (directory : WideString) : Prop where
  | behind
      {separator : UInt16} {name : WideString}
      (known : host.imagePath = .ok (directory ++ separator :: name))
      (short : (directory ++ separator :: name).length < imagePathLimit)
      (separates : isSeparator separator = true)
      (plain : ∀ unit ∈ name, isSeparator unit = false)

/-- A path that is used although it has no separator. -/
inductive FallsBackUnseparated (host : Host) : Prop where
  | within
      {imagePath : WideString}
      (known : host.imagePath = .ok imagePath)
      (short : imagePath.length < imagePathLimit)
      (plain : ∀ unit ∈ imagePath, isSeparator unit = false)

/-- One warning comes with a fallback, and none with a directory that is cut
out of the image path, whatever its name. -/
structure WarnsOfFallback (host : Host) : Prop where
  ofFallback : FallsBack host →
    ((ofHost host).eventsAt .warn).length = 1
  ofCut : ∀ directory, CutsOut host directory →
    (ofHost host).eventsAt .warn = []

/-- A path is plain, or has a last separator. -/
theorem plain_or_exists_last_separator (path : WideString) :
    (∀ unit ∈ path, isSeparator unit = false) ∨
      ∃ directory separator name,
        path = directory ++ separator :: name ∧
          isSeparator separator = true ∧
            ∀ unit ∈ name, isSeparator unit = false := by
  cases found : path.reverse.find? isSeparator with
  | none =>
      rw [List.find?_eq_none] at found
      refine Or.inl fun unit member => ?_
      simpa using found unit (List.mem_reverse.mpr member)
  | some separator =>
      obtain ⟨separates, name, directory, parts, plain⟩ :=
        List.find?_eq_some_iff_append.mp found
      refine Or.inr ⟨directory.reverse, separator, name.reverse, ?_,
        separates, ?_⟩
      · rw [← path.reverse_reverse, parts]
        simp
      · intro unit member
        simpa using plain unit (List.mem_reverse.mp member)

/-- Every host falls back in one of the three ways, or cuts a directory out
of its image path. -/
theorem fallsBack_or_cutsOut (host : Host) :
    FallsBack host ∨ ∃ directory, CutsOut host directory := by
  cases known : host.imagePath with
  | error number => exact Or.inl (.hidden known)
  | ok imagePath =>
      by_cases long : imagePathLimit ≤ imagePath.length
      · exact Or.inl (.overlong known long)
      rcases plain_or_exists_last_separator imagePath with
        plain | ⟨directory, separator, name, rfl, separates, plain⟩
      · exact Or.inl (.unseparated known plain)
      · exact Or.inr ⟨directory,
          .behind known (Nat.lt_of_not_le long) separates plain⟩

/-! ## What is reported, and what is derived -/

theorem ofHost_of_known
    {host : Host} {imagePath : WideString}
    (known : host.imagePath = .ok imagePath) :
    ofHost host = ofImagePath imagePath := by
  rw [ofHost, known]

theorem ofHost_of_cutsOut
    {host : Host} {directory : WideString}
    (cut : CutsOut host directory) :
    ofHost host = pure ⟨directory⟩ := by
  rcases cut with ⟨known, short, separates, plain⟩
  rw [ofHost_of_known known,
    ofImagePath_append _ _ _ separates plain short]

/-- A short path without a separator gives the working directory, and nothing
is said. -/
theorem ofHost_of_fallsBackUnseparated
    {host : Host} (unseparated : FallsBackUnseparated host) :
    ofHost host = pure here := by
  rcases unseparated with ⟨known, short, plain⟩
  rw [ofHost_of_known known, ofImagePath,
    if_neg (Nat.not_le_of_lt short), parent?_of_plain _ plain]
  rfl

theorem value_ofHost_of_fallsBack
    {host : Host} (fallsBack : FallsBack host) :
    (ofHost host).value = here := by
  cases fallsBack with
  | hidden unknown =>
      rw [ofHost, unknown]
      rfl
  | overlong known long =>
      rw [ofHost_of_known known, value_ofImagePath_of_long long]
  | unseparated known plain =>
      rw [ofHost_of_known known, value_ofImagePath_of_plain plain]

/-- A fallback is warned of once, unless a path without separator is used. -/
theorem length_warnings_of_fallsBack
    {host : Host} (fallsBack : FallsBack host)
    (separated : ¬ FallsBackUnseparated host) :
    ((ofHost host).eventsAt .warn).length = 1 := by
  have overlong : ∀ imagePath, host.imagePath = .ok imagePath →
      imagePathLimit ≤ imagePath.length →
        ((ofHost host).eventsAt .warn).length = 1 := by
    intro imagePath known long
    rw [ofHost_of_known known, ofImagePath, if_pos long]
    rfl
  cases fallsBack with
  | hidden unknown =>
      rw [ofHost, unknown]
      rfl
  | overlong known long => exact overlong _ known long
  | unseparated known plain =>
      refine overlong _ known (Nat.le_of_not_lt fun short => ?_)
      exact separated (.within known short plain)

theorem events_ofHost_of_fallsBackUnseparated
    {host : Host} (unseparated : FallsBackUnseparated host) :
    (ofHost host).events = [] := by
  rw [ofHost_of_fallsBackUnseparated unseparated, Traced.events_pure]

theorem events_ofHost_of_cutsOut
    {host : Host} {directory : WideString}
    (cut : CutsOut host directory) :
    (ofHost host).events = [] := by
  rw [ofHost_of_cutsOut cut, Traced.events_pure]

/-! ## Exactly which hosts are warned of -/

theorem not_warnsOfFallback_of_fallsBackUnseparated
    {host : Host} (unseparated : FallsBackUnseparated host) :
    ¬ WarnsOfFallback host := by
  intro warns
  have fallsBack : FallsBack host := by
    rcases unseparated with ⟨known, -, plain⟩
    exact .unseparated known plain
  have warned := warns.ofFallback fallsBack
  rw [Traced.eventsAt,
    events_ofHost_of_fallsBackUnseparated unseparated] at warned
  exact absurd warned (by decide)

theorem warnsOfFallback_of_separated
    {host : Host} (separated : ¬ FallsBackUnseparated host) :
    WarnsOfFallback host where
  ofFallback fallsBack := length_warnings_of_fallsBack fallsBack separated
  ofCut directory cut := by
    rw [Traced.eventsAt, events_ofHost_of_cutsOut cut, List.filter_nil]

/-- Nothing is reported of a directory that is cut out, and of one kind of
fallback. -/
theorem events_ofHost_eq_nil_iff (host : Host) :
    (ofHost host).events = [] ↔
      FallsBackUnseparated host ∨
        ∃ directory, CutsOut host directory := by
  constructor
  · intro nothing
    by_cases unseparated : FallsBackUnseparated host
    · exact Or.inl unseparated
    rcases fallsBack_or_cutsOut host with fallsBack | cut
    · have warned := length_warnings_of_fallsBack fallsBack unseparated
      rw [Traced.eventsAt, nothing] at warned
      exact absurd warned (by decide)
    · exact Or.inr cut
  · rintro (unseparated | ⟨directory, cut⟩)
    · exact events_ofHost_of_fallsBackUnseparated unseparated
    · exact events_ofHost_of_cutsOut cut

/--
The directory of a host is a fallback, or it is cut out of the image path.
Exactly the fallbacks are warned of, once each, unless a path is used although
it has no separator.  Nothing at all is reported then, and nothing of a
directory that is cut out.
-/
theorem warnsOfFallback_iff (host : Host) :
    (FallsBack host ∧ (ofHost host).value = here ∨
      ∃ directory, CutsOut host directory ∧
        (ofHost host).value = ⟨directory⟩) ∧
    (WarnsOfFallback host ↔ ¬ FallsBackUnseparated host) ∧
    ((ofHost host).events = [] ↔
      FallsBackUnseparated host ∨
        ∃ directory, CutsOut host directory) := by
  refine ⟨?_, ⟨?_, warnsOfFallback_of_separated⟩,
    events_ofHost_eq_nil_iff host⟩
  · rcases fallsBack_or_cutsOut host with fallsBack | ⟨directory, cut⟩
    · exact Or.inl ⟨fallsBack, value_ofHost_of_fallsBack fallsBack⟩
    · refine Or.inr ⟨directory, cut, ?_⟩
      rw [ofHost_of_cutsOut cut, Traced.value_pure]
  · intro warns unseparated
    exact not_warnsOfFallback_of_fallsBackUnseparated unseparated warns

/-- A host that names its executable and no directory. -/
def unseparatedHost : Host where
  imagePath := .ok (WideString.ofString "launcher.exe")
  commandLine := []
  arguments := .ok ⟨[], 0⟩
  creation := .ok ⟨100, 104, 4242⟩
  wait := ⟨0, 0⟩
  exitCode := .ok 0
  closeFailures := []

/-- The directory of `launcher.exe` is a fallback, and nothing is said of it. -/
theorem not_warnsOfFallback_unseparated :
    ¬ ∀ host : Host, WarnsOfFallback host := by
  intro claimed
  have plain : ∀ unit ∈ WideString.ofString "launcher.exe",
      isSeparator unit = false := by
    have none : (WideString.ofString "launcher.exe").any isSeparator =
        false := by
      decide
    simpa using none
  have unseparated : FallsBackUnseparated unseparatedHost :=
    .within rfl (by decide) plain
  exact not_warnsOfFallback_of_fallsBackUnseparated unseparated
    (claimed unseparatedHost)

end WindowedLauncher.InstallDirectory
