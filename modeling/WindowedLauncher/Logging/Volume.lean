import WindowedLauncher.Logging.TimeStamp

/-!
# Volumes

A volume is a tree of directories with text files in it, and a working
directory.  A place in it is given by the names that lead there from the root.
`directory?` finds the directory that a written path names: the path is
followed step by step, from the root or from the working directory, and every
step but `.` and `..` must name a directory that exists.  A path that is too
long names nothing.

Main statements: `directory?_absolutePath`, every directory is found by its
absolute path; `content?_append_self` and `content?_append_of_ne`, appending to
a file changes the content of that file and of no other.
-/

namespace WindowedLauncher.Logging

/-- The names that lead from the root to a place. -/
abbrev Place := List String

/-- A tree of directories and files.  The directories that lead to the working
directory exist without being listed. -/
structure Volume where
  /-- The place of the working directory. -/
  working : Place
  directories : List Place
  files : List (Place × String)
deriving DecidableEq, Repr

namespace Volume

/-! ## Paths -/

/-- The steps of a written path, without those that lead nowhere. -/
def steps (path : String) : List String :=
  ((path.toList.splitOn '/').map String.ofList).filter fun step =>
    step ≠ "" && step ≠ "."

/-- Where a written path starts: at the root, or in the working directory. -/
def beginning (working : Place) (path : String) : Place :=
  if path.toList.head? = some '/' then [] else working

/-- The directory around a place.  The root has none but itself. -/
def parent (place : Place) : Place :=
  place.dropLast

/-- The place that steps lead to. -/
def reached (place : Place) : List String → Place
  | [] => place
  | step :: rest =>
    if step = ".." then
      reached (parent place) rest
    else
      reached (place ++ [step]) rest

/-- The directories entered by following steps from a place. -/
def entered (place : Place) : List String → List Place
  | [] => []
  | step :: rest =>
    if step = ".." then
      entered (parent place) rest
    else
      (place ++ [step]) :: entered (place ++ [step]) rest

/-- A path of this many bytes or more names nothing. -/
def pathLimit : Nat := 4096

/-- Whether a path is too long to name anything. -/
def isTooLong (path : String) : Bool :=
  pathLimit ≤ path.utf8ByteSize

/-- The path of a name in a directory. -/
def joined (directory name : String) : String :=
  if directory.endsWith "/" then directory ++ name else directory ++ "/" ++ name

/-! ## Directories -/

/-- Whether there is a directory at a place. -/
def isDirectory (volume : Volume) (place : Place) : Bool :=
  place.isPrefixOf volume.working || volume.directories.contains place

/-- The directory that steps lead to, if each of them enters one that exists. -/
def follow? (volume : Volume) (place : Place) : List String → Option Place
  | [] => some place
  | step :: rest =>
    if step = ".." then
      follow? volume (parent place) rest
    else if volume.isDirectory (place ++ [step]) then
      follow? volume (place ++ [step]) rest
    else
      none

/-- The existing directory that a path names.  The empty path names none. -/
def directory? (volume : Volume) (path : String) : Option Place :=
  if path.isEmpty || isTooLong path then
    none
  else
    volume.follow? (beginning volume.working path) (steps path)

/-! ## Files -/

/-- Puts a file at a place, in the stead of one that is there. -/
def put (files : List (Place × String)) (file : Place × String) :
    List (Place × String) :=
  files.filter (·.1 ≠ file.1) ++ [file]

/-- The tree that holds the given directories and files, and every directory on
the way to one. -/
def ofTree
    (working : Place)
    (directories : List String) (files : List (String × String)) : Volume where
  working := working
  directories :=
    directories.flatMap (fun path =>
      entered (beginning working path) (steps path)) ++
    files.flatMap (fun file =>
      entered (beginning working file.1) (steps file.1).dropLast)
  files :=
    (files.map fun file =>
      (reached (beginning working file.1) (steps file.1), file.2)).foldl put []

/-- What stands in the file at a place, if there is one. -/
def content? (volume : Volume) (place : Place) : Option String :=
  volume.files.lookup place

/-- Opens a file for appending: it is created empty if there is none. -/
def create (volume : Volume) (place : Place) : Volume :=
  if (volume.content? place).isSome then volume
  else { volume with files := volume.files ++ [(place, "")] }

/-- Writes a text behind what stands in a file. -/
def append (volume : Volume) (place : Place) (text : String) : Volume :=
  { volume with
    files := volume.files.map fun file =>
      if file.1 = place then (file.1, file.2 ++ text) else file }

/-- The lines of a text.  A line ends with a line feed, or with a carriage
return and a line feed. -/
def lines (text : String) : List String :=
  let pieces := text.toList.splitOn '\n'
  let ended := pieces.dropLast.map fun piece =>
    if piece.getLast? = some '\r' then piece.dropLast else piece
  let last := (pieces.getLast?.filter (!·.isEmpty)).toList
  (ended ++ last).map String.ofList

/-- The files at and below the working directory, by the paths that lead there
from it, each with its lines, which lose their time stamps. -/
def listing (volume : Volume) : List (String × List String) :=
  (volume.files.filter fun file => volume.working.isPrefixOf file.1).map
    fun file =>
      ("/".intercalate (file.1.drop volume.working.length),
        (lines file.2).map fun line =>
          String.ofList (TimeStamp.withoutStamp line.toList))

/-! ## What paths name -/

/-- The path that leads to a place from the root. -/
def absolutePath (place : Place) : String :=
  String.ofList (['/'].intercalate ([] :: place.map String.toList))

/-- A place that can be written: each of its names can stand between slashes
and is no step of another kind. -/
def IsWritable (place : Place) : Prop :=
  ∀ name ∈ place, name ≠ "" ∧ name ≠ "." ∧ name ≠ ".." ∧ '/' ∉ name.toList

/-- The steps of an absolute path are the names of its place. -/
theorem steps_absolutePath {place : Place} (writable : IsWritable place) :
    steps (absolutePath place) = place := by
  have separated :
      ∀ name ∈ ([] : List Char) :: place.map String.toList, '/' ∉ name := by
    rw [List.forall_mem_cons, List.forall_mem_map]
    refine ⟨List.not_mem_nil, ?_⟩
    intro name member
    exact (writable name member).2.2.2
  have kept : place.filter (fun step => step ≠ "" && step ≠ ".") = place := by
    rw [List.filter_eq_self]
    intro name member
    simp [(writable name member).1, (writable name member).2.1]
  have names : (place.map String.toList).map String.ofList = place := by
    rw [List.map_map]
    refine (List.map_congr_left ?_).trans (List.map_id place)
    intro name member
    exact String.ofList_toList
  rw [steps, absolutePath, String.toList_ofList,
    List.splitOn_intercalate '/' separated (List.cons_ne_nil _ _),
    List.map_cons, names]
  simpa using kept

/-- Steps that enter existing directories are followed to their end. -/
theorem follow?_of_entered
    {volume : Volume} {names : List String} (place : Place)
    (proper : ∀ name ∈ names, name ≠ "..")
    (exist : ∀ entered, entered ≠ [] → entered <+: names →
      volume.isDirectory (place ++ entered) = true) :
    volume.follow? place names = some (place ++ names) := by
  induction names generalizing place with
  | nil => rw [follow?, List.append_nil]
  | cons name rest ih =>
      rw [List.forall_mem_cons] at proper
      have here := exist [name] (List.cons_ne_nil _ _) ⟨rest, rfl⟩
      rw [follow?, if_neg proper.1, if_pos here,
        ih (place ++ [name]) proper.2, List.append_assoc]
      · rfl
      · intro entered nonempty initial
        have further := exist (name :: entered) (List.cons_ne_nil _ _)
          ((List.prefix_cons_inj name).mpr initial)
        rwa [List.append_assoc]

/-- Every directory is found by its absolute path, if that is not too long. -/
theorem directory?_absolutePath
    {volume : Volume} {place : Place}
    (writable : IsWritable place) (below : place ≠ [])
    (short : isTooLong (absolutePath place) = false)
    (exist : ∀ entered, entered ≠ [] → entered <+: place →
      volume.isDirectory entered = true) :
    volume.directory? (absolutePath place) = some place := by
  obtain ⟨name, rest, rfl⟩ := List.exists_cons_of_ne_nil below
  have written : absolutePath (name :: rest) =
      String.ofList
        ('/' :: ['/'].intercalate ((name :: rest).map String.toList)) :=
    rfl
  have named : (absolutePath (name :: rest)).isEmpty = false := by
    rw [written]
    simp
  have absolute :
      beginning volume.working (absolutePath (name :: rest)) = [] := by
    rw [written, beginning, String.toList_ofList]
    rfl
  rw [directory?, named, short, absolute, steps_absolutePath writable]
  refine follow?_of_entered [] ?_ exist
  intro name member
  exact (writable name member).2.2.1

example :
    directory? ⟨["home"], [["logs"]], []⟩ "/logs" = some ["logs"] := by
  decide +kernel

/-- A path may leave the working directory and come back to it by its name. -/
example :
    directory? ⟨["home"], [["home", "logs"]], []⟩ "../home/logs" =
      some ["home", "logs"] := by
  decide +kernel

/-! ## What appending changes -/

/-- The first file of a name is the one that is found. -/
theorem lookup_cons_eq
    (name asked : Place) (content : String)
    (rest : List (Place × String)) :
    ((name, content) :: rest).lookup asked =
      if asked = name then some content else rest.lookup asked := by
  by_cases here : asked = name
  · subst here
    simp
  · have passed : (asked == name) = false := beq_false_of_ne here
    simp [List.lookup_cons, passed, here]

/-- Appending to the file of one name changes what is found by that name. -/
theorem lookup_map_append
    (files : List (Place × String)) (place asked : Place) (text : String) :
    (files.map fun file =>
        if file.1 = place then (file.1, file.2 ++ text) else file).lookup
          asked =
      (files.lookup asked).map fun content =>
        if asked = place then content ++ text else content := by
  induction files with
  | nil => rfl
  | cons file rest ih =>
    obtain ⟨name, content⟩ := file
    rw [List.map_cons, lookup_cons_eq]
    by_cases changed : name = place
    · subst changed
      rw [if_pos rfl, lookup_cons_eq, ih]
      split <;> simp_all
    · rw [if_neg changed, lookup_cons_eq, ih]
      split <;> simp_all

/-- A text that is appended stands behind what was there. -/
theorem content?_append_self (volume : Volume) (place : Place) (text : String) :
    (volume.append place text).content? place =
      (volume.content? place).map (· ++ text) := by
  simp [content?, append, lookup_map_append]

/-- Appending to a file leaves the others as they are. -/
theorem content?_append_of_ne
    (volume : Volume) (place other : Place) (text : String)
    (different : other ≠ place) :
    (volume.append place text).content? other = volume.content? other := by
  simp [content?, append, lookup_map_append, different]

end Volume

end WindowedLauncher.Logging
