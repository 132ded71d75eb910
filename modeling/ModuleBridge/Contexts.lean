import ModuleBridge.Entries
import ModuleBridge.Path

/-!
# Context directories

Directories whose listing a build read, each with the files built from it.  A
change below such a directory affects the files of the deepest one.
-/

namespace ModuleBridge

/-- Directories with the files that depend on their listing, in the order of addition. -/
structure Contexts where
  folders : List (Path × List Path)
  deriving DecidableEq, Repr, Inhabited

namespace Contexts

/-- No directory. -/
def empty : Contexts := ⟨[]⟩

/-- A directory is tracked. -/
def tracks (contexts : Contexts) (folder : Path) : Bool :=
  (contexts.folders.lookup folder).isSome

/-- Adds a file to a directory, both in their normal form. -/
def insert (contexts : Contexts) (folder file : Path) : Contexts :=
  match contexts.folders.lookup folder with
  | none => ⟨contexts.folders ++ [(folder, [file])]⟩
  | some files =>
    if files.contains file then contexts
    else ⟨Entries.set contexts.folders folder (files ++ [file])⟩

/-- A directory to which a file was added is tracked. -/
@[simp]
theorem tracks_insert_self (contexts : Contexts) (folder file : Path) :
    (contexts.insert folder file).tracks folder = true := by
  unfold insert
  split
  · rename_i unknown
    simp [tracks, List.lookup_append, unknown]
  · rename_i files known
    split
    · simp [tracks, known]
    · simp [tracks, Entries.lookup_set_self, known]

/-- Adding a file to one directory leaves the others alone. -/
theorem lookup_insert_of_ne {folder other : Path} (different : other ≠ folder)
    (contexts : Contexts) (file : Path) :
    (contexts.insert folder file).folders.lookup other = contexts.folders.lookup other := by
  have apart : (other == folder) = false := by simpa using different
  unfold insert
  split
  · simp [List.lookup_append, List.lookup_cons, apart]
  · split
    · rfl
    · exact Entries.lookup_set_of_ne different _ _

/-- Records that a file depends on the listing of a directory; tells whether that is new. -/
def add (normalise : Path → Path) (contexts : Contexts) (folder file : Path) : Contexts × Bool :=
  let folder := normalise folder
  (contexts.insert folder (normalise file), !contexts.tracks folder)

/-- The deeper of two entries; of two that are equally deep, the second. -/
def deeper (first second : Path × List Path) : Path × List Path :=
  if second.1.components.length < first.1.components.length then first else second

/-- The files affected by a change of a path: those of the deepest directory above it. -/
def affected? (normalise : Path → Path) (contexts : Contexts) (path : Path) :
    Option (List Path) :=
  let path := normalise path
  match contexts.folders.filter fun entry => path.startsWith entry.1 with
  | [] => none
  | first :: rest => some (rest.foldl deeper first).2

end Contexts

end ModuleBridge
