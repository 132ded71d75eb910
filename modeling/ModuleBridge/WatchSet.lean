import ModuleBridge.Path

/-!
# Watched paths

The files and directories a watcher was asked to watch.  Each is asked for at
most once, however its path is written.
-/

namespace ModuleBridge

/-- What is watched, and whether there is a watcher to tell. -/
structure WatchSet where
  isActive : Bool
  files : List Path
  folders : List Path
  deriving DecidableEq, Repr, Inhabited

namespace WatchSet

/-- Nothing is watched yet. -/
def start (isActive : Bool) : WatchSet := ⟨isActive, [], []⟩

/-- One of the paths has the steps of `path`. -/
def covers (paths : List Path) (path : Path) : Bool :=
  paths.any path.same

/-- A file is watched. -/
def watches (set : WatchSet) (path : Path) : Bool :=
  covers set.files path

/-- Adds a file; tells whether that is new. -/
def addFile (set : WatchSet) (path : Path) : WatchSet × Bool :=
  if covers set.files path then (set, false)
  else ({ set with files := set.files ++ [path] }, true)

/-- A file that was added is watched. -/
@[simp]
theorem watches_addFile_self (set : WatchSet) (path : Path) :
    (set.addFile path).1.watches path = true := by
  by_cases known : covers set.files path = true
  · simp [addFile, watches, known]
  · simp only [addFile, watches, if_neg known]
    simp [covers, Path.same]

/-- Files that were watched stay watched. -/
theorem watches_addFile_of_watches {set : WatchSet} {path : Path}
    (watched : set.watches path = true) (added : Path) :
    (set.addFile added).1.watches path = true := by
  by_cases known : covers set.files added = true
  · simpa [addFile, known] using watched
  · simp only [addFile, if_neg known]
    simp only [watches, covers, List.any_append, Bool.or_eq_true] at watched ⊢
    exact .inl watched

/-- Adding a file tells whether it was not watched before. -/
theorem snd_addFile (set : WatchSet) (path : Path) :
    (set.addFile path).2 = !set.watches path := by
  by_cases known : covers set.files path = true <;> simp [addFile, watches, known]

/-- Adds a directory; tells whether that is new. -/
def addFolder (set : WatchSet) (path : Path) : WatchSet × Bool :=
  if covers set.folders path then (set, false)
  else ({ set with folders := set.folders ++ [path] }, true)

end WatchSet

end ModuleBridge
