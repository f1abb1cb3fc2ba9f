import TableModel.Text

/-!
# Files

A path is a text: names with slashes between them. A file tree is the content of its files by their
locations, with the directories in which nothing need lie and with what is permitted where. A path
is followed name by name, and each name takes a directory that may be searched for it: also `..`,
and also the empty name after a slash at the end.

Writing a file first makes room for it: the file is opened, and whatever it had is gone
(`Files.create?`). What it has then is what the storage took of the content (`Files.put`).
-/

namespace TableModel

/-! ### Paths -/

namespace Path

def isAbsolute (path : Text) : Bool := path.head? == some '/'

/-- The names of a path. One before, between or after slashes may be empty. -/
def names (path : Text) : List Text := Text.splitAt (fun c => c = '/') path

/-- What a path means that is given relative to another one; an absolute one means itself. -/
def below (base path : Text) : Text :=
  if isAbsolute path then path
  else if base.isEmpty || base.getLast? == some '/' then base ++ path
  else base ++ '/' :: path

end Path

/-! ### File trees -/

/-- A place in a file tree: the names on the way to it from the root. -/
abbrev Location := List Text

/-- What can be permitted: searching a directory for a name, reading a file, and writing it. To write
to a directory is to make a file in it. -/
inductive Access where
  | search
  | read
  | write
  deriving DecidableEq, Repr

/-- A file tree: the directory that relative paths start from, the files, and the directories that
are there even if nothing lies in them. Where nothing is said on it, everything is permitted. -/
structure Files where
  current : Location
  contents : List (Location × ByteArray)
  directories : List Location := []
  permits : Access → Location → Bool := fun _ _ => true

/-- What comes of reading a path. There is something `unreadable` where there is a directory, or a
file that may not be read. -/
inductive Reading where
  | missing
  | unreadable
  | content (bytes : ByteArray)

namespace Files

def isDirectory (files : Files) (location : Location) : Bool :=
  ((files.current :: files.directories).any fun directory => location.isPrefixOf directory) ||
    files.contents.any fun entry => location.isPrefixOf entry.1 && location != entry.1

def step (location : Location) (name : Text) : Location :=
  if name = [] || name = ['.'] then location
  else if name = ['.', '.'] then location.dropLast
  else location ++ [name]

/-- Where names lead one after another. Only the last of them may lead to something else than a
directory that may be searched. -/
def follow (files : Files) : Location → List Text → Option Location
  | location, [] => some location
  | location, name :: rest =>
    if files.isDirectory location && files.permits .search location then
      files.follow (step location name) rest
    else none

/-- The location that a path leads to. There need not be anything yet, but there is the directory
that it would be in. -/
def locate? (files : Files) (path : Text) : Option Location :=
  if path.isEmpty then none
  else files.follow (if Path.isAbsolute path then [] else files.current) (Path.names path)

def read (files : Files) (path : Text) : Reading :=
  match files.locate? path with
  | none => .missing
  | some location =>
    match files.contents.lookup location with
    | some bytes => if files.permits .read location then .content bytes else .unreadable
    | none => if files.isDirectory location then .unreadable else .missing

/-! ### Writing -/

def setContent (location : Location) (bytes : ByteArray) :
    List (Location × ByteArray) → List (Location × ByteArray)
  | [] => [(location, bytes)]
  | entry :: rest =>
    if entry.1 = location then (location, bytes) :: rest
    else entry :: setContent location bytes rest

/-- The content at a location is that of the first entry for it. -/
theorem lookup_entry (place : Location) (entry : Location × ByteArray)
    (rest : List (Location × ByteArray)) :
    (entry :: rest).lookup place =
      if place = entry.1 then some entry.2 else rest.lookup place := by
  obtain ⟨key, bytes⟩ := entry
  by_cases h : place = key
  · simp [h]
  · simp [List.lookup_cons, beq_false_of_ne h, h]

theorem lookup_setContent (location place : Location) (bytes : ByteArray)
    (contents : List (Location × ByteArray)) :
    (setContent location bytes contents).lookup place =
      if place = location then some bytes else contents.lookup place := by
  induction contents with
  | nil => simp [setContent, lookup_entry]
  | cons entry rest ih =>
    by_cases hkey : entry.1 = location
    · by_cases h : place = location <;> simp [setContent, lookup_entry, hkey, h]
    · by_cases h : place = entry.1
      · simp [setContent, lookup_entry, hkey, h]
      · simp [setContent, lookup_entry, hkey, h, ih]

/-- The file tree with new content for the file at a location, which need not be there before. -/
def put (files : Files) (location : Location) (bytes : ByteArray) : Files :=
  { files with contents := setContent location bytes files.contents }

/-- How many bytes the name of a file may have. -/
def maxNameBytes : Nat := 255

/-- Where a file can be opened for writing under a path. It is opened so that nothing is left of what
it had; one that is not there is made in its directory, unless its name is too long. -/
def create? (files : Files) (path : Text) : Option Location :=
  (files.locate? path).filter fun location =>
    !files.isDirectory location &&
      if (files.contents.lookup location).isSome then files.permits .write location
      else
        files.permits .write location.dropLast &&
          decide ((Text.utf8 (location.getLastD [])).size ≤ maxNameBytes)

/-- The tree with new content for the file under a path, where all of it is written. -/
def write? (files : Files) (path : Text) (bytes : ByteArray) : Option Files :=
  (files.create? path).map fun location => files.put location bytes

end Files

end TableModel
