import Mathlib.Logic.Function.Iterate
import WindowedLauncher.Relay
import WindowedLauncher.Proofs.Decline
import WindowedLauncher.Proofs.Decoding

/-!
# Runs of a relay

From the second hop on, a launcher is started as the target and is handed what
is delivered of the arguments that the launcher before it was handed.  Every
ordinary character is therefore kept, no backslash is gained, and after some
hops all arguments are faithful and the line stays as it is.
-/

namespace WindowedLauncher.Relay

open CommandLine

/-- The line that the next launcher of a chain reads. -/
def nextLine (directory : InstallDirectory) (line : WideString) :
    WideString :=
  (hop directory line).line

/-! ## One hop -/

theorem doubleQuote_not_mem_target
    {directory : InstallDirectory}
    (noQuote : doubleQuote ∉ directory.path) :
    doubleQuote ∉ directory.target.decode := by
  rw [doubleQuote_mem_decode_iff, InstallDirectory.target,
    List.mem_append, not_or]
  refine ⟨noQuote, ?_⟩
  decide

/-- The next line is written from what was read of the last. -/
theorem decode_nextLine
    (directory : InstallDirectory) (line : WideString) :
    (nextLine directory line).decode =
      ofArguments directory.target.decode
        (hop directory line).argv.tail := by
  have decodeEncode :
      WideString.decode ∘ WideString.encode = id := by
    funext text
    exact WideString.decode_encode text
  rw [nextLine, hop, decode_ofArguments_eq, handedOn, ← List.map_tail,
    List.map_map, decodeEncode, List.map_id]

/-- What a launcher is started as, and what it is handed. -/
theorem argv_hop_nextLine
    {directory : InstallDirectory}
    (noQuote : doubleQuote ∉ directory.path) (line : WideString) :
    (hop directory (nextLine directory line)).argv =
      directory.target.decode ::
        delivered (hop directory line).argv.tail := by
  have read := split_ofArguments (doubleQuote_not_mem_target noQuote)
    (hop directory line).argv.tail
  rw [← decode_nextLine] at read
  exact read

/-- The next hop is delivered what this one was given. -/
theorem tail_argv_hop_nextLine
    {directory : InstallDirectory}
    (noQuote : doubleQuote ∉ directory.path) (line : WideString) :
    (hop directory (nextLine directory line)).argv.tail =
      delivered (hop directory line).argv.tail := by
  rw [argv_hop_nextLine noQuote, List.tail_cons]

/-- Faithful arguments are handed on as they are, and the line stays. -/
theorem nextLine_of_faithful
    {directory : InstallDirectory}
    (noQuote : doubleQuote ∉ directory.path) {line : WideString}
    (faithful : ∀ argument ∈ (hop directory line).argv.tail,
      IsFaithful argument) :
    nextLine directory (nextLine directory line) =
      nextLine directory line := by
  have same : (hop directory (nextLine directory line)).argv.tail =
      (hop directory line).argv.tail := by
    rw [tail_argv_hop_nextLine noQuote, delivered_of_faithful faithful]
  have written : ∀ line, nextLine directory line =
      ofArguments directory.target
        ((hop directory line).argv.tail.map
          WideString.encode) := by
    intro line
    rw [nextLine, hop, handedOn, List.map_tail]
  rw [written (nextLine directory line), same, ← written line]

/-! ## Whole runs -/

/-- What every delivery keeps holds of what each launcher hands on. -/
theorem forall_mem_hops
    {directory : InstallDirectory}
    (noQuote : doubleQuote ∉ directory.path)
    {motive : List (List Char) → Prop}
    (kept : ∀ arguments, motive arguments → motive (delivered arguments))
    (count : Nat) {line : WideString}
    (first : motive (hop directory line).argv.tail) :
    ∀ visited ∈ hops directory count line,
      motive visited.argv.tail := by
  induction count generalizing line with
  | zero =>
      intro visited member
      exact absurd member List.not_mem_nil
  | succ count ih =>
      intro visited member
      have next :
          motive (hop directory (nextLine directory line)).argv.tail := by
        rw [tail_argv_hop_nextLine noQuote]
        exact kept _ first
      rcases List.mem_cons.mp member with rfl | later
      · exact first
      · exact ih next visited later

/-- From the second hop on, the program is the target. -/
theorem head?_argv_of_mem_hops_nextLine
    {directory : InstallDirectory}
    (noQuote : doubleQuote ∉ directory.path)
    (count : Nat) (line : WideString) :
    ∀ visited ∈ hops directory count (nextLine directory line),
      visited.argv.head? = some directory.target.decode := by
  induction count generalizing line with
  | zero =>
      intro visited member
      exact absurd member List.not_mem_nil
  | succ count ih =>
      intro visited member
      rcases List.mem_cons.mp member with rfl | later
      · rw [argv_hop_nextLine noQuote, List.head?_cons]
      · exact ih (nextLine directory line) visited later

/-- The ordinary characters stay the same from hop to hop. -/
theorem residue_of_mem_hops
    {directory : InstallDirectory}
    (noQuote : doubleQuote ∉ directory.path)
    (count : Nat) (line : WideString) :
    ∀ visited ∈ hops directory count line,
      residue visited.argv.tail =
        residue (hop directory line).argv.tail := by
  have kept : ∀ arguments : List (List Char),
      residue arguments = residue (hop directory line).argv.tail →
        residue (delivered arguments) =
          residue (hop directory line).argv.tail := by
    intro arguments same
    rw [residue_delivered, same]
  exact forall_mem_hops noQuote kept count rfl

theorem count_backslash_of_mem_hops
    {directory : InstallDirectory}
    (noQuote : doubleQuote ∉ directory.path)
    (count : Nat) {line : WideString} {bound : Nat}
    (bounded :
      (hop directory line).argv.tail.flatten.count backslash ≤
        bound) :
    ∀ visited ∈ hops directory count line,
      visited.argv.tail.flatten.count backslash ≤ bound := by
  have kept : ∀ arguments : List (List Char),
      arguments.flatten.count backslash ≤ bound →
        (delivered arguments).flatten.count backslash ≤ bound := by
    intro arguments bounded
    exact (count_backslash_delivered_le arguments).trans bounded
  exact forall_mem_hops noQuote kept count bounded

/-- No hop has more backslashes than one before it. -/
theorem pairwise_count_backslash_hops
    {directory : InstallDirectory}
    (noQuote : doubleQuote ∉ directory.path)
    (count : Nat) (line : WideString) :
    (hops directory count line).Pairwise (fun earlier later =>
      later.argv.tail.flatten.count backslash ≤
        earlier.argv.tail.flatten.count backslash) := by
  induction count generalizing line with
  | zero => exact List.Pairwise.nil
  | succ count ih =>
      have fewer :
          (hop directory (nextLine directory line)).argv.tail.flatten.count
              backslash ≤
            (hop directory line).argv.tail.flatten.count
              backslash := by
        rw [tail_argv_hop_nextLine noQuote]
        exact count_backslash_delivered_le _
      constructor
      · exact count_backslash_of_mem_hops noQuote count fewer
      · exact ih (nextLine directory line)

/--
Whatever a relay starts with, from the second hop on the launchers are started
as the target, no ordinary character of what is handed on is lost or added,
and its backslashes never become more.
-/
theorem relay_accounting
    (imagePath line : WideString) (count : Nat)
    (noQuote :
      doubleQuote ∉ (InstallDirectory.ofImagePath imagePath).value.path) :
    (∀ visited ∈ (relay imagePath line count).tail,
        visited.argv.head? =
          some (InstallDirectory.ofImagePath imagePath).value.target.decode) ∧
      (∀ visited ∈ relay imagePath line count,
        residue visited.argv.tail =
          residue (split line.decode).tail) ∧
      (relay imagePath line count).Pairwise (fun earlier later =>
        later.argv.tail.flatten.count backslash ≤
          earlier.argv.tail.flatten.count backslash) := by
  refine ⟨?_, ?_, ?_⟩
  · cases count with
    | zero =>
        intro visited member
        exact absurd member List.not_mem_nil
    | succ count =>
        exact head?_argv_of_mem_hops_nextLine noQuote count line
  · exact residue_of_mem_hops noQuote count line
  · exact pairwise_count_backslash_hops noQuote count line

/-- The path of a program. -/
def sampleImagePath : WideString :=
  WideString.ofString "C:\\tools\\nortoolsw.exe"

/-- The backslash of the first argument lets the quotes run on. -/
def sampleLine : WideString :=
  WideString.ofString "w \"a b\\\\\" \"\" c\"d"

/-- Three hops of a line that is misread. -/
theorem relay_accounting_sampleLine :
    doubleQuote ∉
        (InstallDirectory.ofImagePath sampleImagePath).value.path ∧
      (∀ visited ∈ (relay sampleImagePath sampleLine 3).tail,
        visited.argv.head? = some (InstallDirectory.ofImagePath
          sampleImagePath).value.target.decode) ∧
      (∀ visited ∈ relay sampleImagePath sampleLine 3,
        residue visited.argv.tail =
          residue (split sampleLine.decode).tail) ∧
      (relay sampleImagePath sampleLine 3).Pairwise
        (fun earlier later =>
          later.argv.tail.flatten.count backslash ≤
            earlier.argv.tail.flatten.count backslash) := by
  have noQuote : doubleQuote ∉
      (InstallDirectory.ofImagePath sampleImagePath).value.path := by
    decide
  exact ⟨noQuote, relay_accounting _ _ 3 noQuote⟩

/-! ## The end of every run -/

/-- The launchers of a relay read the lines that come one after the other. -/
theorem hops_eq_map
    (directory : InstallDirectory) (count : Nat) (line : WideString) :
    hops directory count line = (List.range count).map (fun place =>
      hop directory ((nextLine directory)^[place] line)) := by
  induction count generalizing line with
  | zero => rfl
  | succ count ih =>
      rw [List.range_succ_eq_map, List.map_cons, List.map_map]
      exact congrArg (List.cons (hop directory line))
        (ih (nextLine directory line))

/-- A later hop is delivered what the first was given, as many times over. -/
theorem tail_argv_hop_iterate_nextLine
    {directory : InstallDirectory}
    (noQuote : doubleQuote ∉ directory.path)
    (count : Nat) (line : WideString) :
    (hop directory ((nextLine directory)^[count] line)).argv.tail =
      delivered^[count] (hop directory line).argv.tail := by
  induction count with
  | zero => rfl
  | succ count ih =>
      rw [Function.iterate_succ_apply', Function.iterate_succ_apply',
        tail_argv_hop_nextLine noQuote, ih]

/-- The launchers of a relay from some place on read lines from there on. -/
theorem exists_of_mem_drop_hops
    {directory : InstallDirectory} {count places : Nat} {line : WideString}
    {visited : Hop}
    (member : visited ∈ (hops directory count line).drop places) :
    ∃ place, places ≤ place ∧
      visited = hop directory ((nextLine directory)^[place] line) := by
  rw [hops_eq_map, ← List.map_drop] at member
  obtain ⟨place, among, rfl⟩ := List.mem_map.mp member
  obtain ⟨index, _, found⟩ := List.mem_drop_iff_getElem.mp among
  rw [List.getElem_range] at found
  exact ⟨place, by omega, rfl⟩

/--
Every relay settles: from some hop on the line stays the same, and all the
arguments that are handed on are faithful.  However long the relay is, every
launcher of it from there on hands on these arguments in that line.
-/
theorem relay_settles
    (imagePath line : WideString)
    (noQuote :
      doubleQuote ∉ (InstallDirectory.ofImagePath imagePath).value.path) :
    ∃ settled : Nat,
      (∀ count, settled ≤ count →
        (nextLine (InstallDirectory.ofImagePath imagePath).value)^[count]
            line =
          (nextLine (InstallDirectory.ofImagePath imagePath).value)^[settled]
            line) ∧
      (∀ count, ∀ visited ∈ (relay imagePath line count).drop settled,
        visited.argv = split
            ((nextLine
              (InstallDirectory.ofImagePath imagePath).value)^[settled]
              line).decode ∧
          visited.line =
            (nextLine
              (InstallDirectory.ofImagePath imagePath).value)^[settled]
              line) ∧
      ∀ argument ∈ (split
          ((nextLine (InstallDirectory.ofImagePath imagePath).value)^[settled]
            line).decode).tail,
        IsFaithful argument := by
  simp only [relay]
  generalize (InstallDirectory.ofImagePath imagePath).value = directory
    at noQuote ⊢
  obtain ⟨times, faithful⟩ :=
    exists_iterate_delivered_faithful (hop directory line).argv.tail
  rw [← tail_argv_hop_iterate_nextLine noQuote] at faithful
  have fixed : nextLine directory ((nextLine directory)^[times + 1] line) =
      (nextLine directory)^[times + 1] line := by
    rw [Function.iterate_succ_apply']
    exact nextLine_of_faithful noQuote faithful
  have stays : ∀ count, times + 1 ≤ count →
      (nextLine directory)^[count] line =
        (nextLine directory)^[times + 1] line := by
    intro count later
    obtain ⟨further, rfl⟩ := Nat.exists_eq_add_of_le' later
    rw [Function.iterate_add_apply, Function.iterate_fixed fixed]
  refine ⟨times + 1, stays, ?_, ?_⟩
  · intro count visited member
    obtain ⟨place, later, rfl⟩ := exists_of_mem_drop_hops member
    rw [stays place later]
    exact ⟨rfl, fixed⟩
  · change ∀ argument ∈ (hop directory
      ((nextLine directory)^[times + 1] line)).argv.tail, IsFaithful argument
    rw [Function.iterate_succ_apply', tail_argv_hop_nextLine noQuote,
      delivered_of_faithful faithful]
    exact faithful

/-- A line that is misread settles too. -/
theorem relay_settles_sampleLine :
    doubleQuote ∉
        (InstallDirectory.ofImagePath sampleImagePath).value.path ∧
      ∃ settled : Nat,
        (∀ count, settled ≤ count →
          (nextLine (InstallDirectory.ofImagePath
              sampleImagePath).value)^[count] sampleLine =
            (nextLine (InstallDirectory.ofImagePath
              sampleImagePath).value)^[settled] sampleLine) ∧
        (∀ count, ∀ visited ∈
            (relay sampleImagePath sampleLine count).drop settled,
          visited.line =
            (nextLine (InstallDirectory.ofImagePath
              sampleImagePath).value)^[settled] sampleLine) ∧
        ∀ argument ∈ (split ((nextLine
            (InstallDirectory.ofImagePath
              sampleImagePath).value)^[settled] sampleLine).decode).tail,
          IsFaithful argument := by
  have noQuote : doubleQuote ∉
      (InstallDirectory.ofImagePath sampleImagePath).value.path := by
    decide
  obtain ⟨settled, stays, reached, faithful⟩ := relay_settles _ _ noQuote
  refine ⟨noQuote, settled, stays, ?_, faithful⟩
  intro count visited member
  exact (reached count visited member).2

end WindowedLauncher.Relay
