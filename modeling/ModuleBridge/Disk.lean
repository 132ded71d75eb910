import ModuleBridge.Entries
import ModuleBridge.Path

/-!
# Files on disk

A disk is a list of entries, each known by the names that lead to it from the
root, together with the working directory.  A path is followed step by step:
every step must leave a directory, `..` leaves the place actually reached, and
a symbolic link is replaced by its target, at most forty times.

`canonical?` is the real place of a path.  `normalise` gives every path a
stable absolute form: its real place, or the cleaned path where there is none.
-/

namespace ModuleBridge

/-- A place on disk: the names that lead to it from the root. -/
abbrev Place := List String

/-- What stands at a place. -/
inductive Entry where
  | directory
  /-- A file; its text is absent when its bytes are not valid text. -/
  | file (text? : Option String)
  | link (target : String)
  deriving DecidableEq, Repr, Inhabited

/-- The files, directories and links there are, and the working directory. -/
structure Disk where
  entries : List (Place × Entry)
  working : Place
  deriving Repr, Inhabited

namespace Disk

/-- Why a path cannot be read. -/
inductive Failure where
  /-- Nothing stands there. -/
  | missing
  /-- Something stands there, or in the way, that cannot be read as text. -/
  | unreadable
  deriving DecidableEq, Repr, Inhabited

/-- A disk with nothing but its root. -/
def empty : Disk := ⟨[], []⟩

/-- What stands at a place reached without links. -/
def find? (disk : Disk) : Place → Option Entry
  | [] => some .directory
  | place => disk.entries.lookup place

/-- The disk with `entry` at `place`. -/
def put (disk : Disk) (place : Place) (entry : Entry) : Disk :=
  { disk with entries := (place, entry) :: Entries.without disk.entries place }

/-- What was put stands at its place; the root stays a directory. -/
theorem find?_put_self {place : Place} (below : place ≠ []) (disk : Disk) (entry : Entry) :
    (disk.put place entry).find? place = some entry := by
  cases place with
  | nil => exact absurd rfl below
  | cons name rest => simp [put, find?]

/-- What is put at one place leaves the others alone. -/
theorem find?_put_of_ne {place other : Place} (different : other ≠ place) (disk : Disk)
    (entry : Entry) : (disk.put place entry).find? other = disk.find? other := by
  have apart : (other == place) = false := by simpa using different
  cases other with
  | nil => rfl
  | cons name rest =>
    simp [put, find?, List.lookup_cons, apart, Entries.lookup_without_of_ne different]

/-- A name longer than this many bytes is refused. -/
def nameLimit : Nat := 255

/-- Links are followed at most this many times on one path. -/
def linkLimit : Nat := 40

/--
The names a path is followed by.  A separator at the end asks for a directory,
which a last `.` says as well.
-/
def steps (text : String) : List String :=
  let pieces := text.toList.splitOn '/'
  let names := (pieces.filter fun piece => !piece.isEmpty).map String.ofList
  match pieces.getLast? with
  | some [] => names ++ ["."]
  | _ => names

/-- Where a path leads. -/
inductive Reached where
  /-- The path ends at an existing place. -/
  | present (place : Place)
  /-- The directory exists, but nothing of the last name stands in it. -/
  | absent (place : Place)
  /-- A link stands in the way: go on from `place` with `rest`. -/
  | detour (place : Place) (rest : List String)
  deriving DecidableEq, Repr

/-- Follows steps until the path ends or a link is met. -/
def advance (disk : Disk) : Place → List String → Except Failure Reached
  | place, [] => .ok (.present place)
  | place, step :: rest =>
    if disk.find? place ≠ some .directory then
      .error .unreadable
    else if step = "." then
      disk.advance place rest
    else if step = ".." then
      disk.advance place.dropLast rest
    else if nameLimit < step.utf8ByteSize then
      .error .unreadable
    else
      match disk.find? (place ++ [step]) with
      | none => if rest.isEmpty then .ok (.absent (place ++ [step])) else .error .missing
      | some (.link target) =>
        let start := if (Path.mk target).isAbsolute then [] else place
        .ok (.detour start (steps target ++ rest))
      | some _ => disk.advance (place ++ [step]) rest

/-- Follows steps through at most `links` links. -/
def follow (disk : Disk) : Nat → Place → List String → Except Failure Reached
  | links, place, path =>
    match disk.advance place path with
    | .ok (.detour next rest) =>
      match links with
      | 0 => .error .unreadable
      | remaining + 1 => disk.follow remaining next rest
    | outcome => outcome

/-- Where a path leads; a relative path starts at the working directory. -/
def reach (disk : Disk) (path : Path) : Except Failure Reached :=
  if path.text.isEmpty then
    .error .missing
  else if path.text.contains '\x00' then
    .error .unreadable
  else
    disk.follow linkLimit (if path.isAbsolute then [] else disk.working) (steps path.text)

/-- The existing place a path leads to. -/
def locate (disk : Disk) (path : Path) : Except Failure Place :=
  match disk.reach path with
  | .ok (.present place) => .ok place
  | .ok _ => .error .missing
  | .error failure => .error failure

/-- A place as an absolute path. -/
def placePath (place : Place) : Path :=
  Path.ofComponents (.root :: place.map Component.name)

/-- The real path of what a path leads to. -/
def canonical? (disk : Disk) (path : Path) : Option Path :=
  (disk.locate path).toOption.map placePath

/-- The working directory as a path. -/
def workingPath (disk : Disk) : Path :=
  placePath disk.working

/-- The stable absolute form of a path. -/
def normalise (disk : Disk) (path : Path) : Path :=
  match disk.canonical? path with
  | some real => real
  | none => (disk.workingPath.join path).clean

/-- A path exists when something stands where it leads. -/
def exists? (disk : Disk) (path : Path) : Bool :=
  (disk.canonical? path).isSome

/-- A path leads to a file. -/
def isFile (disk : Disk) (path : Path) : Bool :=
  match disk.locate path with
  | .ok place =>
    match disk.find? place with
    | some (.file _) => true
    | _ => false
  | .error _ => false

/-- The text of the file a path leads to. -/
def readText (disk : Disk) (path : Path) : Except Failure String :=
  match disk.locate path with
  | .error failure => .error failure
  | .ok place =>
    match disk.find? place with
    | some (.file (some text)) => .ok text
    | _ => .error .unreadable

/-- Makes a directory where a path leads to nothing yet. -/
def makeDirectory (disk : Disk) (path : Path) : Disk :=
  match disk.reach path with
  | .ok (.absent place) => disk.put place .directory
  | _ => disk

/-- Every path on the way to `steps`, the shortest first. -/
def ancestry (steps : List Component) : List Path :=
  (List.range steps.length).map fun count => Path.ofComponents (steps.take (count + 1))

/-- Makes a directory and every missing directory on the way to it. -/
def makeDirectories (disk : Disk) (path : Path) : Disk :=
  (ancestry path.components).foldl makeDirectory disk

/-- Writes a file, through a link where there is one; missing directories are made. -/
def writeFile (disk : Disk) (path : Path) (text? : Option String) : Disk :=
  let disk := (path.parent?.map disk.makeDirectories).getD disk
  match disk.reach path with
  | .ok (.absent place) => disk.put place (.file text?)
  | .ok (.present place) =>
    match disk.find? place with
    | some (.file _) => disk.put place (.file text?)
    | _ => disk
  | _ => disk

/-- The directory a path's last name stands in, and that name. -/
def slot? (disk : Disk) (path : Path) : Option Place := do
  let name ← path.fileName?
  let folder ← path.parent?
  let place ← (disk.locate (if folder.text.isEmpty then ⟨"."⟩ else folder)).toOption
  if disk.find? place = some .directory then some (place ++ [name]) else none

/-- Makes a symbolic link where nothing stands yet; missing directories are made. -/
def makeLink (disk : Disk) (path : Path) (target : String) : Disk :=
  let disk := (path.parent?.map disk.makeDirectories).getD disk
  match disk.slot? path with
  | some place => if (disk.find? place).isNone then disk.put place (.link target) else disk
  | none => disk

/-- Takes away a file or a link; directories stay. -/
def removeFile (disk : Disk) (path : Path) : Disk :=
  match disk.slot? path with
  | some place =>
    match disk.find? place with
    | some (.file _) | some (.link _) =>
      { disk with entries := Entries.without disk.entries place }
    | _ => disk
  | none => disk

/-- Makes an existing directory the working directory. -/
def changeDirectory (disk : Disk) (path : Path) : Disk :=
  match disk.locate path with
  | .ok place =>
    if disk.find? place = some .directory then { disk with working := place } else disk
  | .error _ => disk

end Disk

end ModuleBridge
