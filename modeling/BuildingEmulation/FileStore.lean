/-!
# File stores

A tree of directories and text files. A path is walked from the top of the store: every part but
the last has to name a directory, `.` stays, and `..` goes up.

Results:
* `lookup?_put`: what has been put at a place stands there, and nothing else changes.
-/
namespace BuildingEmulation

/-- What stands at a place. -/
inductive FileEntry
  | file (text : String)
  | directory
  deriving Repr, DecidableEq

/-- Why a directory cannot be created. -/
inductive DirectoryFault
  /-- A file stands where the directory should. -/
  | fileExists
  /-- A file stands where a directory above it should. -/
  | notDirectory
  /-- Any other reason, in the words of the system. -/
  | denied (reason : String)
  deriving Repr, DecidableEq

def DirectoryFault.message : DirectoryFault → String
  | fileExists => "File exists (os error 17)"
  | notDirectory => "Not a directory (os error 20)"
  | denied reason => reason

/-- A place in a store: the names on the way down to it. -/
abbrev Place := List String

/-- The entries of a store, the latest in front. The top is always a directory. -/
structure FileStore where
  entries : List (Place × FileEntry) := []
  deriving Repr

namespace FileStore

def lookup? (s : FileStore) (place : Place) : Option FileEntry :=
  if place = [] then some .directory else s.entries.lookup place

def put (s : FileStore) (place : Place) (e : FileEntry) : FileStore :=
  { entries := (place, e) :: s.entries }

/-- The names between the slashes of a path. -/
def names (path : String) : List String := (path.toList.splitOn '/').map String.ofList

/-- The parts of a path; a path from a root is not in the store. -/
def parts? (path : String) : Option (List String) :=
  if path.isEmpty || path.startsWith "/" then none else some (names path)

/-- The place that parts lead to from a place, if only the last of them may be missing. -/
def walk? (s : FileStore) : Place → List String → Option Place
  | here, [] => some here
  | here, part :: rest =>
    if s.lookup? here ≠ some .directory then none
    else if part = "" || part = "." then s.walk? here rest
    else if part = ".." then (if here = [] then none else s.walk? here.dropLast rest)
    else s.walk? (here ++ [part]) rest

/-- The place of a path. -/
def place? (s : FileStore) (path : String) : Option Place := parts? path >>= s.walk? []

/-- Whether there is a file or a directory. -/
def holds (s : FileStore) (path : String) : Bool := (s.place? path >>= s.lookup?).isSome

/-- The text of a file. -/
def read? (s : FileStore) (path : String) : Option String :=
  match s.place? path >>= s.lookup? with
  | some (.file text) => some text
  | _ => none

/-- The store with a file created or written anew, if its directory is there. -/
def write? (s : FileStore) (path text : String) : Option FileStore :=
  match s.place? path with
  | none => none
  | some place =>
    if s.lookup? place = some .directory || s.lookup? place.dropLast ≠ some .directory then none
    else some (s.put place (.file text))

/-- The store with every missing directory on the way created. -/
def make (s : FileStore) : Place → List String → Except DirectoryFault FileStore
  | _, [] => .ok s
  | here, part :: rest =>
    if part = "" || part = "." then s.make here rest
    else if part = ".." then s.make here.dropLast rest
    else
      let next := here ++ [part]
      match s.lookup? next with
      | some .directory => s.make next rest
      | some (.file _) => .error (if rest.isEmpty then .fileExists else .notDirectory)
      | none => (s.put next .directory).make next rest

/-- The store with a directory and those above it. -/
def createDirectories (s : FileStore) (path : String) : Except DirectoryFault FileStore :=
  if path.isEmpty then .ok s
  else match parts? path with
    | none => .error (.denied "Permission denied (os error 13)")
    | some parts => s.make [] parts

/-- The directory part of a path. -/
def parent (path : String) : String := "/".intercalate (names path).dropLast

/-- A store with files and the directories they need; a file that is in the way of another is
left. -/
def ofFiles (files : List (String × String)) : FileStore :=
  files.foldl
    (fun s (path, text) =>
      ((s.createDirectories (parent path)).toOption.bind (·.write? path text)).getD s)
    {}

/-- A path below a directory. -/
def join (directory name : String) : String :=
  if name.startsWith "/" || directory.isEmpty then name
  else if directory.endsWith "/" then directory ++ name
  else directory ++ "/" ++ name

theorem lookup?_put (s : FileStore) {place : Place} (other : Place) (e : FileEntry)
    (h : place ≠ []) :
    (s.put place e).lookup? other = if other = place then some e else s.lookup? other := by
  unfold lookup? put
  by_cases ho : other = []
  · subst ho; simp [Ne.symm h]
  · by_cases hp : other = place
    · subst hp; simp [ho]
    · simp [ho, hp, List.lookup_cons, beq_eq_false_iff_ne.2 hp]

end FileStore

end BuildingEmulation
